import Sidelink.BlockError.Row

/-!
# Channels with fading

Curves of the clustered delay line model, with and without a line of sight, as pairs of a level in dB and an error rate.
The shared channel has a curve for each simulated number of PRBs.
-/

namespace Sidelink.BlockError

def fadedLos8 : PointRow := [
    (-10.0, 1.0), (-9.5, 1.0), (-9.0, 1.0), (-8.5, 1.0), (-8.0, 1.0), (-7.5, 1.0), (-7.0, 1.0), (-6.5, 1.0),
    (-6.0, 1.0), (-5.5, 1.0), (-5.0, 1.0), (-4.5, 1.0), (-4.0, 1.0), (-3.5, 0.9996), (-3.0, 0.9959),
    (-2.5, 0.9766), (-2.0, 0.9129), (-1.5, 0.7749), (-1.0, 0.57), (-0.5, 0.3535), (0.0, 0.1861), (0.5, 0.0831),
    (1.0, 0.031), (1.5, 0.0098), (2.0, 0.003), (2.5, 0.00088), (3.0, 0.00016), (3.5, 0.0), (4.0, 0.0),
    (4.5, 0.0), (5.0, 0.0), (5.5, 0.0), (6.0, 0.0), (6.5, 0.0), (7.0, 0.0), (7.5, 0.0), (8.0, 0.0), (8.5, 0.0),
    (9.0, 0.0), (9.5, 0.0), (10.0, 0.0), (10.5, 0.0), (11.0, 0.0), (11.5, 0.0), (12.0, 0.0), (12.5, 0.0)]

def fadedLos18 : PointRow := [
    (-10.0, 1.0), (-9.5, 1.0), (-9.0, 1.0), (-8.5, 1.0), (-8.0, 1.0), (-7.5, 1.0), (-7.0, 1.0), (-6.5, 1.0),
    (-6.0, 1.0), (-5.5, 1.0), (-5.0, 1.0), (-4.5, 1.0), (-4.0, 1.0), (-3.5, 1.0), (-3.0, 1.0), (-2.5, 0.9991),
    (-2.0, 0.9914), (-1.5, 0.9577), (-1.0, 0.8588), (-0.5, 0.6777), (0.0, 0.4528), (0.5, 0.252), (1.0, 0.1184),
    (1.5, 0.0464), (2.0, 0.0163), (2.5, 0.0052), (3.0, 0.0015), (3.5, 0.00035), (4.0, 0.0), (4.5, 0.0),
    (5.0, 0.0), (5.5, 0.0), (6.0, 0.0), (6.5, 0.0), (7.0, 0.0), (7.5, 0.0), (8.0, 0.0), (8.5, 0.0), (9.0, 0.0),
    (9.5, 0.0), (10.0, 0.0), (10.5, 0.0), (11.0, 0.0), (11.5, 0.0), (12.0, 0.0), (12.5, 0.0)]

def fadedLos28 : PointRow := [
    (-10.0, 1.0), (-9.5, 1.0), (-9.0, 1.0), (-8.5, 1.0), (-8.0, 1.0), (-7.5, 1.0), (-7.0, 1.0), (-6.5, 1.0),
    (-6.0, 1.0), (-5.5, 1.0), (-5.0, 1.0), (-4.5, 1.0), (-4.0, 1.0), (-3.5, 1.0), (-3.0, 0.9998),
    (-2.5, 0.9973), (-2.0, 0.9788), (-1.5, 0.9098), (-1.0, 0.7542), (-0.5, 0.5308), (0.0, 0.3077),
    (0.5, 0.1461), (1.0, 0.0575), (1.5, 0.0196), (2.0, 0.006), (2.5, 0.0015), (3.0, 0.0004), (3.5, 0.00016),
    (4.0, 0.0), (4.5, 0.0), (5.0, 0.0), (5.5, 0.0), (6.0, 0.0), (6.5, 0.0), (7.0, 0.0), (7.5, 0.0), (8.0, 0.0),
    (8.5, 0.0), (9.0, 0.0), (9.5, 0.0), (10.0, 0.0), (10.5, 0.0), (11.0, 0.0), (11.5, 0.0), (12.0, 0.0),
    (12.5, 0.0)]

def fadedLos38 : PointRow := [
    (-10.0, 1.0), (-9.5, 1.0), (-9.0, 1.0), (-8.5, 1.0), (-8.0, 1.0), (-7.5, 1.0), (-7.0, 1.0), (-6.5, 1.0),
    (-6.0, 1.0), (-5.5, 1.0), (-5.0, 1.0), (-4.5, 1.0), (-4.0, 1.0), (-3.5, 1.0), (-3.0, 0.99978),
    (-2.5, 0.99682), (-2.0, 0.97615), (-1.5, 0.90005), (-1.0, 0.73455), (-0.5, 0.50281), (0.0, 0.28011),
    (0.5, 0.12942), (1.0, 0.04895), (1.5, 0.01588), (2.0, 0.00441), (2.5, 0.00112), (3.0, 0.00023), (3.5, 0.0),
    (4.0, 0.0), (4.5, 0.0), (5.0, 0.0), (5.5, 0.0), (6.0, 0.0), (6.5, 0.0), (7.0, 0.0), (7.5, 0.0), (8.0, 0.0),
    (8.5, 0.0), (9.0, 0.0), (9.5, 0.0), (10.0, 0.0), (10.5, 0.0), (11.0, 0.0), (11.5, 0.0), (12.0, 0.0),
    (12.5, 0.0)]

def fadedLos48 : PointRow := [
    (-10.0, 1.0), (-9.5, 1.0), (-9.0, 1.0), (-8.5, 1.0), (-8.0, 1.0), (-7.5, 1.0), (-7.0, 1.0), (-6.5, 1.0),
    (-6.0, 1.0), (-5.5, 1.0), (-5.0, 1.0), (-4.5, 1.0), (-4.0, 1.0), (-3.5, 0.99998), (-3.0, 0.99977),
    (-2.5, 0.99617), (-2.0, 0.97233), (-1.5, 0.88934), (-1.0, 0.71064), (-0.5, 0.47351), (0.0, 0.25505),
    (0.5, 0.11283), (1.0, 0.04099), (1.5, 0.01272), (2.0, 0.0032), (2.5, 0.00063), (3.0, 0.00018), (3.5, 0.0),
    (4.0, 0.0), (4.5, 0.0), (5.0, 0.0), (5.5, 0.0), (6.0, 0.0), (6.5, 0.0), (7.0, 0.0), (7.5, 0.0), (8.0, 0.0),
    (8.5, 0.0), (9.0, 0.0), (9.5, 0.0), (10.0, 0.0), (10.5, 0.0), (11.0, 0.0), (11.5, 0.0), (12.0, 0.0),
    (12.5, 0.0)]

def fadedControlLos : PointRow := [
    (-20.0, 0.9959), (-19.5, 0.9956), (-19.0, 0.9957), (-18.5, 0.9952), (-18.0, 0.9936), (-17.5, 0.9929),
    (-17.0, 0.9905), (-16.5, 0.9856), (-16.0, 0.976), (-15.5, 0.9602), (-15.0, 0.928), (-14.5, 0.8838),
    (-14.0, 0.8118), (-13.5, 0.7182), (-13.0, 0.6081), (-12.5, 0.4802), (-12.0, 0.3496), (-11.5, 0.2282),
    (-11.0, 0.136), (-10.5, 0.0724), (-10.0, 0.0326), (-9.5, 0.0147), (-9.0, 0.0047), (-8.5, 0.0017),
    (-8.0, 0.0), (-7.5, 0.0), (-7.0, 0.0), (-6.5, 0.0), (-6.0, 0.0), (-5.5, 0.0), (-5.0, 0.0), (-4.5, 0.0),
    (-4.0, 0.0), (-3.5, 0.0), (-3.0, 0.0), (-2.5, 0.0), (-2.0, 0.0), (-1.5, 0.0), (-1.0, 0.0), (-0.5, 0.0),
    (0.0, 0.0)]

def fadedNlos8 : PointRow := [
    (-10.0, 1.0), (-9.5, 1.0), (-9.0, 1.0), (-8.5, 1.0), (-8.0, 1.0), (-7.5, 1.0), (-7.0, 0.9998),
    (-6.5, 0.9994), (-6.0, 0.9984), (-5.5, 0.9957), (-5.0, 0.9903), (-4.5, 0.981), (-4.0, 0.9663),
    (-3.5, 0.9438), (-3.0, 0.9131), (-2.5, 0.8725), (-2.0, 0.8234), (-1.5, 0.7655), (-1.0, 0.7019),
    (-0.5, 0.6346), (0.0, 0.5645), (0.5, 0.4957), (1.0, 0.4282), (1.5, 0.3649), (2.0, 0.3063), (2.5, 0.2533),
    (3.0, 0.207), (3.5, 0.165), (4.0, 0.1303), (4.5, 0.1009), (5.0, 0.0771), (5.5, 0.0585), (6.0, 0.044),
    (6.5, 0.032), (7.0, 0.0226), (7.5, 0.016), (8.0, 0.0112), (8.5, 0.0079), (9.0, 0.0057), (9.5, 0.004),
    (10.0, 0.0026), (10.5, 0.0017), (11.0, 0.0012), (11.5, 0.00081), (12.0, 0.0005), (12.5, 0.00037)]

def fadedNlos18 : PointRow := [
    (-10.0, 1.0), (-9.5, 1.0), (-9.0, 1.0), (-8.5, 1.0), (-8.0, 1.0), (-7.5, 1.0), (-7.0, 1.0), (-6.5, 0.9999),
    (-6.0, 0.9996), (-5.5, 0.9988), (-5.0, 0.9968), (-4.5, 0.9928), (-4.0, 0.9849), (-3.5, 0.9715),
    (-3.0, 0.9509), (-2.5, 0.9213), (-2.0, 0.8831), (-1.5, 0.8351), (-1.0, 0.7777), (-0.5, 0.7149),
    (0.0, 0.6472), (0.5, 0.5781), (1.0, 0.509), (1.5, 0.4399), (2.0, 0.3745), (2.5, 0.3136), (3.0, 0.2595),
    (3.5, 0.2123), (4.0, 0.1701), (4.5, 0.1348), (5.0, 0.1041), (5.5, 0.0797), (6.0, 0.0596), (6.5, 0.0442),
    (7.0, 0.0315), (7.5, 0.0229), (8.0, 0.0165), (8.5, 0.0114), (9.0, 0.008), (9.5, 0.0055), (10.0, 0.0038),
    (10.5, 0.0026), (11.0, 0.0018), (11.5, 0.0011), (12.0, 0.00074), (12.5, 0.00052)]

def fadedNlos28 : PointRow := [
    (-10.0, 1.0), (-9.5, 1.0), (-9.0, 1.0), (-8.5, 1.0), (-8.0, 1.0), (-7.5, 1.0), (-7.0, 1.0), (-6.5, 0.9998),
    (-6.0, 0.9995), (-5.5, 0.9982), (-5.0, 0.9951), (-4.5, 0.9895), (-4.0, 0.9786), (-3.5, 0.9616),
    (-3.0, 0.9369), (-2.5, 0.9023), (-2.0, 0.8586), (-1.5, 0.8058), (-1.0, 0.7451), (-0.5, 0.6792),
    (0.0, 0.6092), (0.5, 0.5384), (1.0, 0.47), (1.5, 0.4019), (2.0, 0.3393), (2.5, 0.2805), (3.0, 0.229),
    (3.5, 0.1852), (4.0, 0.1457), (4.5, 0.1128), (5.0, 0.0858), (5.5, 0.0639), (6.0, 0.0469), (6.5, 0.0334),
    (7.0, 0.0233), (7.5, 0.0164), (8.0, 0.0111), (8.5, 0.0074), (9.0, 0.0047), (9.5, 0.003), (10.0, 0.0018),
    (10.5, 0.001), (11.0, 0.00061), (11.5, 0.00034), (12.0, 0.00022), (12.5, 0.00014)]

def fadedNlos38 : PointRow := [
    (-10.0, 1.0), (-9.5, 1.0), (-9.0, 1.0), (-8.5, 1.0), (-8.0, 1.0), (-7.5, 1.0), (-7.0, 1.0), (-6.5, 0.9998),
    (-6.0, 0.9993), (-5.5, 0.9981), (-5.0, 0.9948), (-4.5, 0.9891), (-4.0, 0.9785), (-3.5, 0.9614),
    (-3.0, 0.9352), (-2.5, 0.9001), (-2.0, 0.8556), (-1.5, 0.802), (-1.0, 0.7414), (-0.5, 0.6742),
    (0.0, 0.6064), (0.5, 0.5349), (1.0, 0.4656), (1.5, 0.3987), (2.0, 0.3352), (2.5, 0.2767), (3.0, 0.225),
    (3.5, 0.1806), (4.0, 0.1419), (4.5, 0.1087), (5.0, 0.0816), (5.5, 0.0601), (6.0, 0.0431), (6.5, 0.0304),
    (7.0, 0.0206), (7.5, 0.0138), (8.0, 0.0089), (8.5, 0.0057), (9.0, 0.0036), (9.5, 0.0021), (10.0, 0.0012),
    (10.5, 0.00062), (11.0, 0.00035), (11.5, 0.00022), (12.0, 0.00011), (12.5, 0.0)]

def fadedNlos48 : PointRow := [
    (-10.0, 1.0), (-9.5, 1.0), (-9.0, 1.0), (-8.5, 1.0), (-8.0, 1.0), (-7.5, 1.0), (-7.0, 1.0), (-6.5, 0.9999),
    (-6.0, 0.9993), (-5.5, 0.9979), (-5.0, 0.9946), (-4.5, 0.9888), (-4.0, 0.9777), (-3.5, 0.9591),
    (-3.0, 0.9324), (-2.5, 0.8968), (-2.0, 0.8508), (-1.5, 0.798), (-1.0, 0.7355), (-0.5, 0.6677),
    (0.0, 0.5986), (0.5, 0.5269), (1.0, 0.4577), (1.5, 0.3919), (2.0, 0.3271), (2.5, 0.2702), (3.0, 0.2195),
    (3.5, 0.1748), (4.0, 0.1363), (4.5, 0.1046), (5.0, 0.0773), (5.5, 0.0563), (6.0, 0.0403), (6.5, 0.0279),
    (7.0, 0.0184), (7.5, 0.0119), (8.0, 0.0076), (8.5, 0.0047), (9.0, 0.0028), (9.5, 0.0017), (10.0, 0.00094),
    (10.5, 0.00057), (11.0, 0.00025), (11.5, 0.0001), (12.0, 0.0), (12.5, 0.0)]

def fadedControlNlos : PointRow := [
    (-20.0, 0.9961), (-19.5, 0.9959), (-19.0, 0.9953), (-18.5, 0.9946), (-18.0, 0.991), (-17.5, 0.9865),
    (-17.0, 0.9784), (-16.5, 0.9685), (-16.0, 0.9546), (-15.5, 0.9338), (-15.0, 0.9054), (-14.5, 0.8724),
    (-14.0, 0.8349), (-13.5, 0.7824), (-13.0, 0.7258), (-12.5, 0.66), (-12.0, 0.5936), (-11.5, 0.5246),
    (-11.0, 0.4585), (-10.5, 0.3954), (-10.0, 0.3314), (-9.5, 0.2769), (-9.0, 0.2265), (-8.5, 0.1807),
    (-8.0, 0.1398), (-7.5, 0.1065), (-7.0, 0.0798), (-6.5, 0.0597), (-6.0, 0.0422), (-5.5, 0.0285),
    (-5.0, 0.0208), (-4.5, 0.0149), (-4.0, 0.0095), (-3.5, 0.0053), (-3.0, 0.003), (-2.5, 0.0022),
    (-2.0, 0.0016), (-1.5, 0.0), (-1.0, 0.0), (-0.5, 0.0), (0.0, 0.0)]

end Sidelink.BlockError
