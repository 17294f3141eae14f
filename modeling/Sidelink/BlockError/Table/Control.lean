import Sidelink.BlockError.Row

/-!
# Discovery and control channels without fading

The discovery channel has a row for each attempt of a block. The control and broadcast channels have one row each.
-/

namespace Sidelink.BlockError

def discoveryRows : List GridRow := [
  ⟨-0.8, 2.4, 0.2, [
    1.0, 0.9984, 0.9972, 0.9936, 0.98, 0.9524, 0.9148, 0.8192, 0.7016, 0.5628, 0.3812, 0.2616, 0.1224, 0.0708,
    0.0252, 0.0108, 0.0028, 0.0, 0.0, 0.0, 0.0, 0.0, 0.0]⟩,
  ⟨-4.4, -0.4, 0.2, [
    1.0, 0.9996, 0.9996, 0.9964, 0.9908, 0.9752, 0.944, 0.8692, 0.7884, 0.6448, 0.47, 0.2956, 0.188, 0.0828,
    0.0296, 0.0136, 0.0036, 0.002, 0.0004, 0.0008, 0.0, 0.0, 0.0]⟩,
  ⟨-6.0, -1.6, 0.2, [
    1.0, 0.9996, 0.994, 0.9888, 0.974, 0.9344, 0.8676, 0.7572, 0.6104, 0.4436, 0.2816, 0.1676, 0.0704, 0.034,
    0.012, 0.0028, 0.0016, 0.0008, 0.0004, 0.0, 0.0004, 0.0004, 0.0]⟩,
  ⟨-7.2, -3.4, 0.2, [
    1.0, 0.9988, 0.9956, 0.9896, 0.9648, 0.9332, 0.8548, 0.742, 0.58, 0.4272, 0.2528, 0.1384, 0.0756, 0.0248,
    0.0108, 0.0032, 0.0, 0.0, 0.0004, 0.0, 0.0, 0.0, 0.0]⟩]

def controlRow : GridRow := ⟨-6.2, 1.2, 0.2, [
    1.0, 0.9883, 0.9784, 0.9721, 0.9631, 0.9517, 0.9325, 0.9133, 0.8783, 0.849, 0.8048, 0.7565, 0.6958, 0.6325,
    0.5703, 0.5049, 0.4273, 0.3733, 0.2989, 0.2437, 0.1932, 0.1467, 0.1126, 0.0785, 0.0592, 0.0423, 0.0265,
    0.0186, 0.011, 0.0072, 0.0031, 0.0026, 0.0011, 0.0008, 0.0003, 0.0002, 0.0001, 0.0]⟩

def broadcastRow : GridRow := ⟨-13.2, -4.8, 0.2, [
    1.0, 0.9979, 0.9969, 0.9958, 0.995, 0.9912, 0.9912, 0.9846, 0.9766, 0.9661, 0.9587, 0.9409, 0.9217, 0.8995,
    0.8787, 0.8373, 0.7927, 0.744, 0.6976, 0.6348, 0.5662, 0.5032, 0.4392, 0.3677, 0.3068, 0.2522, 0.2011,
    0.1504, 0.1254, 0.0878, 0.0635, 0.0436, 0.032, 0.0211, 0.0146, 0.008, 0.0063, 0.0046, 0.0033, 0.0017,
    0.001, 0.0004, 0.0]⟩

end Sidelink.BlockError
