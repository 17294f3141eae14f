import Sidelink.BlockError.Row

/-!
# New Radio sidelink

One curve for transport blocks and one for the first-stage control information.
-/

namespace Sidelink.BlockError

def radioData : PointRow := [
    (-10.0, 1.0), (-9.0, 1.0), (-8.0, 1.0), (-7.0, 1.0), (-6.0, 1.0), (-5.0, 1.0), (-4.0, 1.0), (-3.0, 1.0),
    (-2.0, 1.0), (-1.0, 0.97501), (0.0, 0.6132), (1.0, 0.4755), (2.0, 0.3781), (3.0, 0.2182), (4.0, 0.1321),
    (5.0, 0.054), (6.0, 0.023), (7.0, 0.0059), (8.0, 0.0015), (9.0, 0.0015), (10.0, 0.0015), (11.0, 0.0015),
    (12.0, 0.0015), (13.0, 0.0015), (14.0, 0.0015), (15.0, 0.0015)]

def radioControl : PointRow := [
    (-12.0, 1.0), (-11.0, 1.0), (-10.0, 1.0), (-9.0, 0.9093), (-8.0, 0.7923), (-7.0, 0.6734), (-6.0, 0.5376),
    (-5.0, 0.3981), (-4.0, 0.2735), (-3.0, 0.181), (-2.0, 0.1139), (-1.0, 0.0664), (0.0, 0.0403),
    (1.0, 0.0234), (2.0, 0.0125), (3.0, 0.0055), (4.0, 0.0028), (5.0, 0.0014), (6.0, 0.00086), (7.0, 0.00013),
    (8.0, 0.00013), (9.0, 0.00013), (10.0, 0.00013), (11.0, 0.00013), (12.0, 0.00013), (13.0, 0.00013),
    (14.0, 0.00013), (15.0, 0.00013)]

end Sidelink.BlockError
