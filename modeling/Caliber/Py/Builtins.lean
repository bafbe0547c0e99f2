import Mathlib.Data.List.Nodup
import Mathlib.Data.Rat.Floor
import Mathlib.Data.Nat.Digits

/-!
# The Python built-ins the analyzers use

Text is a list of code points, as a Python `str` is.  Each definition is the
built-in of the same name: `str.isspace`, `str.strip`, `str.split`,
`str.count`, `in`, list slicing, `dict` assignment in insertion order and
`round(x, 2)`.  The classes `\w` and `\d` of a `str` pattern are Python
3.11's, over Unicode 14.0.

A float is the exact rational value of its binary64 double.  An operation on
doubles is the exact operation followed by `toBinary64`, which rounds to the
nearest double, ties to even, as IEEE 754 division and multiplication do.
-/

namespace Caliber.Py

/-- `str.isspace()` on one character; the `\s` class of a `str` pattern is the
same set. -/
def isSpace (c : Char) : Bool :=
  let n := c.toNat
  (9 ≤ n && n ≤ 13) || (28 ≤ n && n ≤ 32) || n == 0x85 || n == 0xA0 || n == 0x1680 ||
    (0x2000 ≤ n && n ≤ 0x200A) || n == 0x2028 || n == 0x2029 || n == 0x202F ||
    n == 0x205F || n == 0x3000

/-- The code points from 128 on that `\w` matches: the ranges of
`re.match(r'\w', chr(cp))` in Python 3.11. -/
def wordRanges : List (ℕ × ℕ) :=
  [(0xAA, 0xAA), (0xB2, 0xB3), (0xB5, 0xB5), (0xB9, 0xBA), (0xBC, 0xBE), (0xC0, 0xD6),
    (0xD8, 0xF6), (0xF8, 0x2C1), (0x2C6, 0x2D1), (0x2E0, 0x2E4), (0x2EC, 0x2EC), (0x2EE, 0x2EE),
    (0x370, 0x374), (0x376, 0x377), (0x37A, 0x37D), (0x37F, 0x37F), (0x386, 0x386), (0x388, 0x38A),
    (0x38C, 0x38C), (0x38E, 0x3A1), (0x3A3, 0x3F5), (0x3F7, 0x481), (0x48A, 0x52F), (0x531, 0x556),
    (0x559, 0x559), (0x560, 0x588), (0x5D0, 0x5EA), (0x5EF, 0x5F2), (0x620, 0x64A), (0x660, 0x669),
    (0x66E, 0x66F), (0x671, 0x6D3), (0x6D5, 0x6D5), (0x6E5, 0x6E6), (0x6EE, 0x6FC), (0x6FF, 0x6FF),
    (0x710, 0x710), (0x712, 0x72F), (0x74D, 0x7A5), (0x7B1, 0x7B1), (0x7C0, 0x7EA), (0x7F4, 0x7F5),
    (0x7FA, 0x7FA), (0x800, 0x815), (0x81A, 0x81A), (0x824, 0x824), (0x828, 0x828), (0x840, 0x858),
    (0x860, 0x86A), (0x870, 0x887), (0x889, 0x88E), (0x8A0, 0x8C9), (0x904, 0x939), (0x93D, 0x93D),
    (0x950, 0x950), (0x958, 0x961), (0x966, 0x96F), (0x971, 0x980), (0x985, 0x98C), (0x98F, 0x990),
    (0x993, 0x9A8), (0x9AA, 0x9B0), (0x9B2, 0x9B2), (0x9B6, 0x9B9), (0x9BD, 0x9BD), (0x9CE, 0x9CE),
    (0x9DC, 0x9DD), (0x9DF, 0x9E1), (0x9E6, 0x9F1), (0x9F4, 0x9F9), (0x9FC, 0x9FC), (0xA05, 0xA0A),
    (0xA0F, 0xA10), (0xA13, 0xA28), (0xA2A, 0xA30), (0xA32, 0xA33), (0xA35, 0xA36), (0xA38, 0xA39),
    (0xA59, 0xA5C), (0xA5E, 0xA5E), (0xA66, 0xA6F), (0xA72, 0xA74), (0xA85, 0xA8D), (0xA8F, 0xA91),
    (0xA93, 0xAA8), (0xAAA, 0xAB0), (0xAB2, 0xAB3), (0xAB5, 0xAB9), (0xABD, 0xABD), (0xAD0, 0xAD0),
    (0xAE0, 0xAE1), (0xAE6, 0xAEF), (0xAF9, 0xAF9), (0xB05, 0xB0C), (0xB0F, 0xB10), (0xB13, 0xB28),
    (0xB2A, 0xB30), (0xB32, 0xB33), (0xB35, 0xB39), (0xB3D, 0xB3D)] ++
  [(0xB5C, 0xB5D), (0xB5F, 0xB61), (0xB66, 0xB6F), (0xB71, 0xB77), (0xB83, 0xB83), (0xB85, 0xB8A),
    (0xB8E, 0xB90), (0xB92, 0xB95), (0xB99, 0xB9A), (0xB9C, 0xB9C), (0xB9E, 0xB9F), (0xBA3, 0xBA4),
    (0xBA8, 0xBAA), (0xBAE, 0xBB9), (0xBD0, 0xBD0), (0xBE6, 0xBF2), (0xC05, 0xC0C), (0xC0E, 0xC10),
    (0xC12, 0xC28), (0xC2A, 0xC39), (0xC3D, 0xC3D), (0xC58, 0xC5A), (0xC5D, 0xC5D), (0xC60, 0xC61),
    (0xC66, 0xC6F), (0xC78, 0xC7E), (0xC80, 0xC80), (0xC85, 0xC8C), (0xC8E, 0xC90), (0xC92, 0xCA8),
    (0xCAA, 0xCB3), (0xCB5, 0xCB9), (0xCBD, 0xCBD), (0xCDD, 0xCDE), (0xCE0, 0xCE1), (0xCE6, 0xCEF),
    (0xCF1, 0xCF2), (0xD04, 0xD0C), (0xD0E, 0xD10), (0xD12, 0xD3A), (0xD3D, 0xD3D), (0xD4E, 0xD4E),
    (0xD54, 0xD56), (0xD58, 0xD61), (0xD66, 0xD78), (0xD7A, 0xD7F), (0xD85, 0xD96), (0xD9A, 0xDB1),
    (0xDB3, 0xDBB), (0xDBD, 0xDBD), (0xDC0, 0xDC6), (0xDE6, 0xDEF), (0xE01, 0xE30), (0xE32, 0xE33),
    (0xE40, 0xE46), (0xE50, 0xE59), (0xE81, 0xE82), (0xE84, 0xE84), (0xE86, 0xE8A), (0xE8C, 0xEA3),
    (0xEA5, 0xEA5), (0xEA7, 0xEB0), (0xEB2, 0xEB3), (0xEBD, 0xEBD), (0xEC0, 0xEC4), (0xEC6, 0xEC6),
    (0xED0, 0xED9), (0xEDC, 0xEDF), (0xF00, 0xF00), (0xF20, 0xF33), (0xF40, 0xF47), (0xF49, 0xF6C),
    (0xF88, 0xF8C), (0x1000, 0x102A), (0x103F, 0x1049), (0x1050, 0x1055), (0x105A, 0x105D), (0x1061, 0x1061),
    (0x1065, 0x1066), (0x106E, 0x1070), (0x1075, 0x1081), (0x108E, 0x108E), (0x1090, 0x1099), (0x10A0, 0x10C5),
    (0x10C7, 0x10C7), (0x10CD, 0x10CD), (0x10D0, 0x10FA), (0x10FC, 0x1248), (0x124A, 0x124D), (0x1250, 0x1256),
    (0x1258, 0x1258), (0x125A, 0x125D), (0x1260, 0x1288), (0x128A, 0x128D), (0x1290, 0x12B0), (0x12B2, 0x12B5),
    (0x12B8, 0x12BE), (0x12C0, 0x12C0), (0x12C2, 0x12C5), (0x12C8, 0x12D6)] ++
  [(0x12D8, 0x1310), (0x1312, 0x1315), (0x1318, 0x135A), (0x1369, 0x137C), (0x1380, 0x138F), (0x13A0, 0x13F5),
    (0x13F8, 0x13FD), (0x1401, 0x166C), (0x166F, 0x167F), (0x1681, 0x169A), (0x16A0, 0x16EA), (0x16EE, 0x16F8),
    (0x1700, 0x1711), (0x171F, 0x1731), (0x1740, 0x1751), (0x1760, 0x176C), (0x176E, 0x1770), (0x1780, 0x17B3),
    (0x17D7, 0x17D7), (0x17DC, 0x17DC), (0x17E0, 0x17E9), (0x17F0, 0x17F9), (0x1810, 0x1819), (0x1820, 0x1878),
    (0x1880, 0x1884), (0x1887, 0x18A8), (0x18AA, 0x18AA), (0x18B0, 0x18F5), (0x1900, 0x191E), (0x1946, 0x196D),
    (0x1970, 0x1974), (0x1980, 0x19AB), (0x19B0, 0x19C9), (0x19D0, 0x19DA), (0x1A00, 0x1A16), (0x1A20, 0x1A54),
    (0x1A80, 0x1A89), (0x1A90, 0x1A99), (0x1AA7, 0x1AA7), (0x1B05, 0x1B33), (0x1B45, 0x1B4C), (0x1B50, 0x1B59),
    (0x1B83, 0x1BA0), (0x1BAE, 0x1BE5), (0x1C00, 0x1C23), (0x1C40, 0x1C49), (0x1C4D, 0x1C7D), (0x1C80, 0x1C88),
    (0x1C90, 0x1CBA), (0x1CBD, 0x1CBF), (0x1CE9, 0x1CEC), (0x1CEE, 0x1CF3), (0x1CF5, 0x1CF6), (0x1CFA, 0x1CFA),
    (0x1D00, 0x1DBF), (0x1E00, 0x1F15), (0x1F18, 0x1F1D), (0x1F20, 0x1F45), (0x1F48, 0x1F4D), (0x1F50, 0x1F57),
    (0x1F59, 0x1F59), (0x1F5B, 0x1F5B), (0x1F5D, 0x1F5D), (0x1F5F, 0x1F7D), (0x1F80, 0x1FB4), (0x1FB6, 0x1FBC),
    (0x1FBE, 0x1FBE), (0x1FC2, 0x1FC4), (0x1FC6, 0x1FCC), (0x1FD0, 0x1FD3), (0x1FD6, 0x1FDB), (0x1FE0, 0x1FEC),
    (0x1FF2, 0x1FF4), (0x1FF6, 0x1FFC), (0x2070, 0x2071), (0x2074, 0x2079), (0x207F, 0x2089), (0x2090, 0x209C),
    (0x2102, 0x2102), (0x2107, 0x2107), (0x210A, 0x2113), (0x2115, 0x2115), (0x2119, 0x211D), (0x2124, 0x2124),
    (0x2126, 0x2126), (0x2128, 0x2128), (0x212A, 0x212D), (0x212F, 0x2139), (0x213C, 0x213F), (0x2145, 0x2149),
    (0x214E, 0x214E), (0x2150, 0x2189), (0x2460, 0x249B), (0x24EA, 0x24FF), (0x2776, 0x2793), (0x2C00, 0x2CE4),
    (0x2CEB, 0x2CEE), (0x2CF2, 0x2CF3), (0x2CFD, 0x2CFD), (0x2D00, 0x2D25)] ++
  [(0x2D27, 0x2D27), (0x2D2D, 0x2D2D), (0x2D30, 0x2D67), (0x2D6F, 0x2D6F), (0x2D80, 0x2D96), (0x2DA0, 0x2DA6),
    (0x2DA8, 0x2DAE), (0x2DB0, 0x2DB6), (0x2DB8, 0x2DBE), (0x2DC0, 0x2DC6), (0x2DC8, 0x2DCE), (0x2DD0, 0x2DD6),
    (0x2DD8, 0x2DDE), (0x2E2F, 0x2E2F), (0x3005, 0x3007), (0x3021, 0x3029), (0x3031, 0x3035), (0x3038, 0x303C),
    (0x3041, 0x3096), (0x309D, 0x309F), (0x30A1, 0x30FA), (0x30FC, 0x30FF), (0x3105, 0x312F), (0x3131, 0x318E),
    (0x3192, 0x3195), (0x31A0, 0x31BF), (0x31F0, 0x31FF), (0x3220, 0x3229), (0x3248, 0x324F), (0x3251, 0x325F),
    (0x3280, 0x3289), (0x32B1, 0x32BF), (0x3400, 0x4DBF), (0x4E00, 0xA48C), (0xA4D0, 0xA4FD), (0xA500, 0xA60C),
    (0xA610, 0xA62B), (0xA640, 0xA66E), (0xA67F, 0xA69D), (0xA6A0, 0xA6EF), (0xA717, 0xA71F), (0xA722, 0xA788),
    (0xA78B, 0xA7CA), (0xA7D0, 0xA7D1), (0xA7D3, 0xA7D3), (0xA7D5, 0xA7D9), (0xA7F2, 0xA801), (0xA803, 0xA805),
    (0xA807, 0xA80A), (0xA80C, 0xA822), (0xA830, 0xA835), (0xA840, 0xA873), (0xA882, 0xA8B3), (0xA8D0, 0xA8D9),
    (0xA8F2, 0xA8F7), (0xA8FB, 0xA8FB), (0xA8FD, 0xA8FE), (0xA900, 0xA925), (0xA930, 0xA946), (0xA960, 0xA97C),
    (0xA984, 0xA9B2), (0xA9CF, 0xA9D9), (0xA9E0, 0xA9E4), (0xA9E6, 0xA9FE), (0xAA00, 0xAA28), (0xAA40, 0xAA42),
    (0xAA44, 0xAA4B), (0xAA50, 0xAA59), (0xAA60, 0xAA76), (0xAA7A, 0xAA7A), (0xAA7E, 0xAAAF), (0xAAB1, 0xAAB1),
    (0xAAB5, 0xAAB6), (0xAAB9, 0xAABD), (0xAAC0, 0xAAC0), (0xAAC2, 0xAAC2), (0xAADB, 0xAADD), (0xAAE0, 0xAAEA),
    (0xAAF2, 0xAAF4), (0xAB01, 0xAB06), (0xAB09, 0xAB0E), (0xAB11, 0xAB16), (0xAB20, 0xAB26), (0xAB28, 0xAB2E),
    (0xAB30, 0xAB5A), (0xAB5C, 0xAB69), (0xAB70, 0xABE2), (0xABF0, 0xABF9), (0xAC00, 0xD7A3), (0xD7B0, 0xD7C6),
    (0xD7CB, 0xD7FB), (0xF900, 0xFA6D), (0xFA70, 0xFAD9), (0xFB00, 0xFB06), (0xFB13, 0xFB17), (0xFB1D, 0xFB1D),
    (0xFB1F, 0xFB28), (0xFB2A, 0xFB36), (0xFB38, 0xFB3C), (0xFB3E, 0xFB3E)] ++
  [(0xFB40, 0xFB41), (0xFB43, 0xFB44), (0xFB46, 0xFBB1), (0xFBD3, 0xFD3D), (0xFD50, 0xFD8F), (0xFD92, 0xFDC7),
    (0xFDF0, 0xFDFB), (0xFE70, 0xFE74), (0xFE76, 0xFEFC), (0xFF10, 0xFF19), (0xFF21, 0xFF3A), (0xFF41, 0xFF5A),
    (0xFF66, 0xFFBE), (0xFFC2, 0xFFC7), (0xFFCA, 0xFFCF), (0xFFD2, 0xFFD7), (0xFFDA, 0xFFDC), (0x10000, 0x1000B),
    (0x1000D, 0x10026), (0x10028, 0x1003A), (0x1003C, 0x1003D), (0x1003F, 0x1004D), (0x10050, 0x1005D), (0x10080, 0x100FA),
    (0x10107, 0x10133), (0x10140, 0x10178), (0x1018A, 0x1018B), (0x10280, 0x1029C), (0x102A0, 0x102D0), (0x102E1, 0x102FB),
    (0x10300, 0x10323), (0x1032D, 0x1034A), (0x10350, 0x10375), (0x10380, 0x1039D), (0x103A0, 0x103C3), (0x103C8, 0x103CF),
    (0x103D1, 0x103D5), (0x10400, 0x1049D), (0x104A0, 0x104A9), (0x104B0, 0x104D3), (0x104D8, 0x104FB), (0x10500, 0x10527),
    (0x10530, 0x10563), (0x10570, 0x1057A), (0x1057C, 0x1058A), (0x1058C, 0x10592), (0x10594, 0x10595), (0x10597, 0x105A1),
    (0x105A3, 0x105B1), (0x105B3, 0x105B9), (0x105BB, 0x105BC), (0x10600, 0x10736), (0x10740, 0x10755), (0x10760, 0x10767),
    (0x10780, 0x10785), (0x10787, 0x107B0), (0x107B2, 0x107BA), (0x10800, 0x10805), (0x10808, 0x10808), (0x1080A, 0x10835),
    (0x10837, 0x10838), (0x1083C, 0x1083C), (0x1083F, 0x10855), (0x10858, 0x10876), (0x10879, 0x1089E), (0x108A7, 0x108AF),
    (0x108E0, 0x108F2), (0x108F4, 0x108F5), (0x108FB, 0x1091B), (0x10920, 0x10939), (0x10980, 0x109B7), (0x109BC, 0x109CF),
    (0x109D2, 0x10A00), (0x10A10, 0x10A13), (0x10A15, 0x10A17), (0x10A19, 0x10A35), (0x10A40, 0x10A48), (0x10A60, 0x10A7E),
    (0x10A80, 0x10A9F), (0x10AC0, 0x10AC7), (0x10AC9, 0x10AE4), (0x10AEB, 0x10AEF), (0x10B00, 0x10B35), (0x10B40, 0x10B55),
    (0x10B58, 0x10B72), (0x10B78, 0x10B91), (0x10BA9, 0x10BAF), (0x10C00, 0x10C48), (0x10C80, 0x10CB2), (0x10CC0, 0x10CF2),
    (0x10CFA, 0x10D23), (0x10D30, 0x10D39), (0x10E60, 0x10E7E), (0x10E80, 0x10EA9), (0x10EB0, 0x10EB1), (0x10F00, 0x10F27),
    (0x10F30, 0x10F45), (0x10F51, 0x10F54), (0x10F70, 0x10F81), (0x10FB0, 0x10FCB)] ++
  [(0x10FE0, 0x10FF6), (0x11003, 0x11037), (0x11052, 0x1106F), (0x11071, 0x11072), (0x11075, 0x11075), (0x11083, 0x110AF),
    (0x110D0, 0x110E8), (0x110F0, 0x110F9), (0x11103, 0x11126), (0x11136, 0x1113F), (0x11144, 0x11144), (0x11147, 0x11147),
    (0x11150, 0x11172), (0x11176, 0x11176), (0x11183, 0x111B2), (0x111C1, 0x111C4), (0x111D0, 0x111DA), (0x111DC, 0x111DC),
    (0x111E1, 0x111F4), (0x11200, 0x11211), (0x11213, 0x1122B), (0x11280, 0x11286), (0x11288, 0x11288), (0x1128A, 0x1128D),
    (0x1128F, 0x1129D), (0x1129F, 0x112A8), (0x112B0, 0x112DE), (0x112F0, 0x112F9), (0x11305, 0x1130C), (0x1130F, 0x11310),
    (0x11313, 0x11328), (0x1132A, 0x11330), (0x11332, 0x11333), (0x11335, 0x11339), (0x1133D, 0x1133D), (0x11350, 0x11350),
    (0x1135D, 0x11361), (0x11400, 0x11434), (0x11447, 0x1144A), (0x11450, 0x11459), (0x1145F, 0x11461), (0x11480, 0x114AF),
    (0x114C4, 0x114C5), (0x114C7, 0x114C7), (0x114D0, 0x114D9), (0x11580, 0x115AE), (0x115D8, 0x115DB), (0x11600, 0x1162F),
    (0x11644, 0x11644), (0x11650, 0x11659), (0x11680, 0x116AA), (0x116B8, 0x116B8), (0x116C0, 0x116C9), (0x11700, 0x1171A),
    (0x11730, 0x1173B), (0x11740, 0x11746), (0x11800, 0x1182B), (0x118A0, 0x118F2), (0x118FF, 0x11906), (0x11909, 0x11909),
    (0x1190C, 0x11913), (0x11915, 0x11916), (0x11918, 0x1192F), (0x1193F, 0x1193F), (0x11941, 0x11941), (0x11950, 0x11959),
    (0x119A0, 0x119A7), (0x119AA, 0x119D0), (0x119E1, 0x119E1), (0x119E3, 0x119E3), (0x11A00, 0x11A00), (0x11A0B, 0x11A32),
    (0x11A3A, 0x11A3A), (0x11A50, 0x11A50), (0x11A5C, 0x11A89), (0x11A9D, 0x11A9D), (0x11AB0, 0x11AF8), (0x11C00, 0x11C08),
    (0x11C0A, 0x11C2E), (0x11C40, 0x11C40), (0x11C50, 0x11C6C), (0x11C72, 0x11C8F), (0x11D00, 0x11D06), (0x11D08, 0x11D09),
    (0x11D0B, 0x11D30), (0x11D46, 0x11D46), (0x11D50, 0x11D59), (0x11D60, 0x11D65), (0x11D67, 0x11D68), (0x11D6A, 0x11D89),
    (0x11D98, 0x11D98), (0x11DA0, 0x11DA9), (0x11EE0, 0x11EF2), (0x11FB0, 0x11FB0), (0x11FC0, 0x11FD4), (0x12000, 0x12399),
    (0x12400, 0x1246E), (0x12480, 0x12543), (0x12F90, 0x12FF0), (0x13000, 0x1342E)] ++
  [(0x14400, 0x14646), (0x16800, 0x16A38), (0x16A40, 0x16A5E), (0x16A60, 0x16A69), (0x16A70, 0x16ABE), (0x16AC0, 0x16AC9),
    (0x16AD0, 0x16AED), (0x16B00, 0x16B2F), (0x16B40, 0x16B43), (0x16B50, 0x16B59), (0x16B5B, 0x16B61), (0x16B63, 0x16B77),
    (0x16B7D, 0x16B8F), (0x16E40, 0x16E96), (0x16F00, 0x16F4A), (0x16F50, 0x16F50), (0x16F93, 0x16F9F), (0x16FE0, 0x16FE1),
    (0x16FE3, 0x16FE3), (0x17000, 0x187F7), (0x18800, 0x18CD5), (0x18D00, 0x18D08), (0x1AFF0, 0x1AFF3), (0x1AFF5, 0x1AFFB),
    (0x1AFFD, 0x1AFFE), (0x1B000, 0x1B122), (0x1B150, 0x1B152), (0x1B164, 0x1B167), (0x1B170, 0x1B2FB), (0x1BC00, 0x1BC6A),
    (0x1BC70, 0x1BC7C), (0x1BC80, 0x1BC88), (0x1BC90, 0x1BC99), (0x1D2E0, 0x1D2F3), (0x1D360, 0x1D378), (0x1D400, 0x1D454),
    (0x1D456, 0x1D49C), (0x1D49E, 0x1D49F), (0x1D4A2, 0x1D4A2), (0x1D4A5, 0x1D4A6), (0x1D4A9, 0x1D4AC), (0x1D4AE, 0x1D4B9),
    (0x1D4BB, 0x1D4BB), (0x1D4BD, 0x1D4C3), (0x1D4C5, 0x1D505), (0x1D507, 0x1D50A), (0x1D50D, 0x1D514), (0x1D516, 0x1D51C),
    (0x1D51E, 0x1D539), (0x1D53B, 0x1D53E), (0x1D540, 0x1D544), (0x1D546, 0x1D546), (0x1D54A, 0x1D550), (0x1D552, 0x1D6A5),
    (0x1D6A8, 0x1D6C0), (0x1D6C2, 0x1D6DA), (0x1D6DC, 0x1D6FA), (0x1D6FC, 0x1D714), (0x1D716, 0x1D734), (0x1D736, 0x1D74E),
    (0x1D750, 0x1D76E), (0x1D770, 0x1D788), (0x1D78A, 0x1D7A8), (0x1D7AA, 0x1D7C2), (0x1D7C4, 0x1D7CB), (0x1D7CE, 0x1D7FF),
    (0x1DF00, 0x1DF1E), (0x1E100, 0x1E12C), (0x1E137, 0x1E13D), (0x1E140, 0x1E149), (0x1E14E, 0x1E14E), (0x1E290, 0x1E2AD),
    (0x1E2C0, 0x1E2EB), (0x1E2F0, 0x1E2F9), (0x1E7E0, 0x1E7E6), (0x1E7E8, 0x1E7EB), (0x1E7ED, 0x1E7EE), (0x1E7F0, 0x1E7FE),
    (0x1E800, 0x1E8C4), (0x1E8C7, 0x1E8CF), (0x1E900, 0x1E943), (0x1E94B, 0x1E94B), (0x1E950, 0x1E959), (0x1EC71, 0x1ECAB),
    (0x1ECAD, 0x1ECAF), (0x1ECB1, 0x1ECB4), (0x1ED01, 0x1ED2D), (0x1ED2F, 0x1ED3D), (0x1EE00, 0x1EE03), (0x1EE05, 0x1EE1F),
    (0x1EE21, 0x1EE22), (0x1EE24, 0x1EE24), (0x1EE27, 0x1EE27), (0x1EE29, 0x1EE32), (0x1EE34, 0x1EE37), (0x1EE39, 0x1EE39),
    (0x1EE3B, 0x1EE3B), (0x1EE42, 0x1EE42), (0x1EE47, 0x1EE47), (0x1EE49, 0x1EE49)] ++
  [(0x1EE4B, 0x1EE4B), (0x1EE4D, 0x1EE4F), (0x1EE51, 0x1EE52), (0x1EE54, 0x1EE54), (0x1EE57, 0x1EE57), (0x1EE59, 0x1EE59),
    (0x1EE5B, 0x1EE5B), (0x1EE5D, 0x1EE5D), (0x1EE5F, 0x1EE5F), (0x1EE61, 0x1EE62), (0x1EE64, 0x1EE64), (0x1EE67, 0x1EE6A),
    (0x1EE6C, 0x1EE72), (0x1EE74, 0x1EE77), (0x1EE79, 0x1EE7C), (0x1EE7E, 0x1EE7E), (0x1EE80, 0x1EE89), (0x1EE8B, 0x1EE9B),
    (0x1EEA1, 0x1EEA3), (0x1EEA5, 0x1EEA9), (0x1EEAB, 0x1EEBB), (0x1F100, 0x1F10C), (0x1FBF0, 0x1FBF9), (0x20000, 0x2A6DF),
    (0x2A700, 0x2B738), (0x2B740, 0x2B81D), (0x2B820, 0x2CEA1), (0x2CEB0, 0x2EBE0), (0x2F800, 0x2FA1D), (0x30000, 0x3134A)]

/-- The code points from 128 on that `\d` matches, the decimal digits of
Unicode. -/
def digitRanges : List (ℕ × ℕ) :=
  [(0x660, 0x669), (0x6F0, 0x6F9), (0x7C0, 0x7C9), (0x966, 0x96F), (0x9E6, 0x9EF), (0xA66, 0xA6F),
    (0xAE6, 0xAEF), (0xB66, 0xB6F), (0xBE6, 0xBEF), (0xC66, 0xC6F), (0xCE6, 0xCEF), (0xD66, 0xD6F),
    (0xDE6, 0xDEF), (0xE50, 0xE59), (0xED0, 0xED9), (0xF20, 0xF29), (0x1040, 0x1049), (0x1090, 0x1099),
    (0x17E0, 0x17E9), (0x1810, 0x1819), (0x1946, 0x194F), (0x19D0, 0x19D9), (0x1A80, 0x1A89), (0x1A90, 0x1A99),
    (0x1B50, 0x1B59), (0x1BB0, 0x1BB9), (0x1C40, 0x1C49), (0x1C50, 0x1C59), (0xA620, 0xA629), (0xA8D0, 0xA8D9),
    (0xA900, 0xA909), (0xA9D0, 0xA9D9), (0xA9F0, 0xA9F9), (0xAA50, 0xAA59), (0xABF0, 0xABF9), (0xFF10, 0xFF19),
    (0x104A0, 0x104A9), (0x10D30, 0x10D39), (0x11066, 0x1106F), (0x110F0, 0x110F9), (0x11136, 0x1113F), (0x111D0, 0x111D9),
    (0x112F0, 0x112F9), (0x11450, 0x11459), (0x114D0, 0x114D9), (0x11650, 0x11659), (0x116C0, 0x116C9), (0x11730, 0x11739),
    (0x118E0, 0x118E9), (0x11950, 0x11959), (0x11C50, 0x11C59), (0x11D50, 0x11D59), (0x11DA0, 0x11DA9), (0x16A60, 0x16A69),
    (0x16AC0, 0x16AC9), (0x16B50, 0x16B59), (0x1D7CE, 0x1D7FF), (0x1E140, 0x1E149), (0x1E2F0, 0x1E2F9), (0x1E950, 0x1E959),
    (0x1FBF0, 0x1FBF9)]

/-- `\w`: on ASCII the letters, digits and the underscore; beyond, the
letters and digits of `wordRanges`. -/
def isWord (c : Char) : Bool :=
  if c.toNat < 128 then c.isAlphanum || c == '_'
  else wordRanges.any fun r ↦ r.1 ≤ c.toNat && c.toNat ≤ r.2

/-- `\d`: `0` to `9`, and the decimal digits of `digitRanges`. -/
def isDigit (c : Char) : Bool :=
  if c.toNat < 128 then c.isDigit
  else digitRanges.any fun r ↦ r.1 ≤ c.toNat && c.toNat ≤ r.2

/-- The code points from 128 on that `str.isprintable` accepts: those outside
the categories `Cc`, `Cf`, `Cs`, `Co`, `Cn`, `Zl`, `Zp` and `Zs`, in Python
3.11. -/
def printableRanges : List (ℕ × ℕ) :=
  [(0xA1, 0xAC), (0xAE, 0x377), (0x37A, 0x37F), (0x384, 0x38A), (0x38C, 0x38C), (0x38E, 0x3A1),
    (0x3A3, 0x52F), (0x531, 0x556), (0x559, 0x58A), (0x58D, 0x58F), (0x591, 0x5C7), (0x5D0, 0x5EA),
    (0x5EF, 0x5F4), (0x606, 0x61B), (0x61D, 0x6DC), (0x6DE, 0x70D), (0x710, 0x74A), (0x74D, 0x7B1),
    (0x7C0, 0x7FA), (0x7FD, 0x82D), (0x830, 0x83E), (0x840, 0x85B), (0x85E, 0x85E), (0x860, 0x86A),
    (0x870, 0x88E), (0x898, 0x8E1), (0x8E3, 0x983), (0x985, 0x98C), (0x98F, 0x990), (0x993, 0x9A8),
    (0x9AA, 0x9B0), (0x9B2, 0x9B2), (0x9B6, 0x9B9), (0x9BC, 0x9C4), (0x9C7, 0x9C8), (0x9CB, 0x9CE),
    (0x9D7, 0x9D7), (0x9DC, 0x9DD), (0x9DF, 0x9E3), (0x9E6, 0x9FE), (0xA01, 0xA03), (0xA05, 0xA0A),
    (0xA0F, 0xA10), (0xA13, 0xA28), (0xA2A, 0xA30), (0xA32, 0xA33), (0xA35, 0xA36), (0xA38, 0xA39),
    (0xA3C, 0xA3C), (0xA3E, 0xA42), (0xA47, 0xA48), (0xA4B, 0xA4D), (0xA51, 0xA51), (0xA59, 0xA5C),
    (0xA5E, 0xA5E), (0xA66, 0xA76), (0xA81, 0xA83), (0xA85, 0xA8D), (0xA8F, 0xA91), (0xA93, 0xAA8),
    (0xAAA, 0xAB0), (0xAB2, 0xAB3), (0xAB5, 0xAB9), (0xABC, 0xAC5), (0xAC7, 0xAC9), (0xACB, 0xACD),
    (0xAD0, 0xAD0), (0xAE0, 0xAE3), (0xAE6, 0xAF1), (0xAF9, 0xAFF), (0xB01, 0xB03), (0xB05, 0xB0C),
    (0xB0F, 0xB10), (0xB13, 0xB28), (0xB2A, 0xB30), (0xB32, 0xB33), (0xB35, 0xB39), (0xB3C, 0xB44),
    (0xB47, 0xB48), (0xB4B, 0xB4D), (0xB55, 0xB57), (0xB5C, 0xB5D), (0xB5F, 0xB63), (0xB66, 0xB77),
    (0xB82, 0xB83), (0xB85, 0xB8A), (0xB8E, 0xB90), (0xB92, 0xB95), (0xB99, 0xB9A), (0xB9C, 0xB9C),
    (0xB9E, 0xB9F), (0xBA3, 0xBA4), (0xBA8, 0xBAA), (0xBAE, 0xBB9), (0xBBE, 0xBC2), (0xBC6, 0xBC8),
    (0xBCA, 0xBCD), (0xBD0, 0xBD0), (0xBD7, 0xBD7), (0xBE6, 0xBFA)] ++
  [(0xC00, 0xC0C), (0xC0E, 0xC10), (0xC12, 0xC28), (0xC2A, 0xC39), (0xC3C, 0xC44), (0xC46, 0xC48),
    (0xC4A, 0xC4D), (0xC55, 0xC56), (0xC58, 0xC5A), (0xC5D, 0xC5D), (0xC60, 0xC63), (0xC66, 0xC6F),
    (0xC77, 0xC8C), (0xC8E, 0xC90), (0xC92, 0xCA8), (0xCAA, 0xCB3), (0xCB5, 0xCB9), (0xCBC, 0xCC4),
    (0xCC6, 0xCC8), (0xCCA, 0xCCD), (0xCD5, 0xCD6), (0xCDD, 0xCDE), (0xCE0, 0xCE3), (0xCE6, 0xCEF),
    (0xCF1, 0xCF2), (0xD00, 0xD0C), (0xD0E, 0xD10), (0xD12, 0xD44), (0xD46, 0xD48), (0xD4A, 0xD4F),
    (0xD54, 0xD63), (0xD66, 0xD7F), (0xD81, 0xD83), (0xD85, 0xD96), (0xD9A, 0xDB1), (0xDB3, 0xDBB),
    (0xDBD, 0xDBD), (0xDC0, 0xDC6), (0xDCA, 0xDCA), (0xDCF, 0xDD4), (0xDD6, 0xDD6), (0xDD8, 0xDDF),
    (0xDE6, 0xDEF), (0xDF2, 0xDF4), (0xE01, 0xE3A), (0xE3F, 0xE5B), (0xE81, 0xE82), (0xE84, 0xE84),
    (0xE86, 0xE8A), (0xE8C, 0xEA3), (0xEA5, 0xEA5), (0xEA7, 0xEBD), (0xEC0, 0xEC4), (0xEC6, 0xEC6),
    (0xEC8, 0xECD), (0xED0, 0xED9), (0xEDC, 0xEDF), (0xF00, 0xF47), (0xF49, 0xF6C), (0xF71, 0xF97),
    (0xF99, 0xFBC), (0xFBE, 0xFCC), (0xFCE, 0xFDA), (0x1000, 0x10C5), (0x10C7, 0x10C7), (0x10CD, 0x10CD),
    (0x10D0, 0x1248), (0x124A, 0x124D), (0x1250, 0x1256), (0x1258, 0x1258), (0x125A, 0x125D), (0x1260, 0x1288),
    (0x128A, 0x128D), (0x1290, 0x12B0), (0x12B2, 0x12B5), (0x12B8, 0x12BE), (0x12C0, 0x12C0), (0x12C2, 0x12C5),
    (0x12C8, 0x12D6), (0x12D8, 0x1310), (0x1312, 0x1315), (0x1318, 0x135A), (0x135D, 0x137C), (0x1380, 0x1399),
    (0x13A0, 0x13F5), (0x13F8, 0x13FD), (0x1400, 0x167F), (0x1681, 0x169C), (0x16A0, 0x16F8), (0x1700, 0x1715),
    (0x171F, 0x1736), (0x1740, 0x1753), (0x1760, 0x176C), (0x176E, 0x1770), (0x1772, 0x1773), (0x1780, 0x17DD),
    (0x17E0, 0x17E9), (0x17F0, 0x17F9), (0x1800, 0x180D), (0x180F, 0x1819)] ++
  [(0x1820, 0x1878), (0x1880, 0x18AA), (0x18B0, 0x18F5), (0x1900, 0x191E), (0x1920, 0x192B), (0x1930, 0x193B),
    (0x1940, 0x1940), (0x1944, 0x196D), (0x1970, 0x1974), (0x1980, 0x19AB), (0x19B0, 0x19C9), (0x19D0, 0x19DA),
    (0x19DE, 0x1A1B), (0x1A1E, 0x1A5E), (0x1A60, 0x1A7C), (0x1A7F, 0x1A89), (0x1A90, 0x1A99), (0x1AA0, 0x1AAD),
    (0x1AB0, 0x1ACE), (0x1B00, 0x1B4C), (0x1B50, 0x1B7E), (0x1B80, 0x1BF3), (0x1BFC, 0x1C37), (0x1C3B, 0x1C49),
    (0x1C4D, 0x1C88), (0x1C90, 0x1CBA), (0x1CBD, 0x1CC7), (0x1CD0, 0x1CFA), (0x1D00, 0x1F15), (0x1F18, 0x1F1D),
    (0x1F20, 0x1F45), (0x1F48, 0x1F4D), (0x1F50, 0x1F57), (0x1F59, 0x1F59), (0x1F5B, 0x1F5B), (0x1F5D, 0x1F5D),
    (0x1F5F, 0x1F7D), (0x1F80, 0x1FB4), (0x1FB6, 0x1FC4), (0x1FC6, 0x1FD3), (0x1FD6, 0x1FDB), (0x1FDD, 0x1FEF),
    (0x1FF2, 0x1FF4), (0x1FF6, 0x1FFE), (0x2010, 0x2027), (0x2030, 0x205E), (0x2070, 0x2071), (0x2074, 0x208E),
    (0x2090, 0x209C), (0x20A0, 0x20C0), (0x20D0, 0x20F0), (0x2100, 0x218B), (0x2190, 0x2426), (0x2440, 0x244A),
    (0x2460, 0x2B73), (0x2B76, 0x2B95), (0x2B97, 0x2CF3), (0x2CF9, 0x2D25), (0x2D27, 0x2D27), (0x2D2D, 0x2D2D),
    (0x2D30, 0x2D67), (0x2D6F, 0x2D70), (0x2D7F, 0x2D96), (0x2DA0, 0x2DA6), (0x2DA8, 0x2DAE), (0x2DB0, 0x2DB6),
    (0x2DB8, 0x2DBE), (0x2DC0, 0x2DC6), (0x2DC8, 0x2DCE), (0x2DD0, 0x2DD6), (0x2DD8, 0x2DDE), (0x2DE0, 0x2E5D),
    (0x2E80, 0x2E99), (0x2E9B, 0x2EF3), (0x2F00, 0x2FD5), (0x2FF0, 0x2FFB), (0x3001, 0x303F), (0x3041, 0x3096),
    (0x3099, 0x30FF), (0x3105, 0x312F), (0x3131, 0x318E), (0x3190, 0x31E3), (0x31F0, 0x321E), (0x3220, 0xA48C),
    (0xA490, 0xA4C6), (0xA4D0, 0xA62B), (0xA640, 0xA6F7), (0xA700, 0xA7CA), (0xA7D0, 0xA7D1), (0xA7D3, 0xA7D3),
    (0xA7D5, 0xA7D9), (0xA7F2, 0xA82C), (0xA830, 0xA839), (0xA840, 0xA877), (0xA880, 0xA8C5), (0xA8CE, 0xA8D9),
    (0xA8E0, 0xA953), (0xA95F, 0xA97C), (0xA980, 0xA9CD), (0xA9CF, 0xA9D9)] ++
  [(0xA9DE, 0xA9FE), (0xAA00, 0xAA36), (0xAA40, 0xAA4D), (0xAA50, 0xAA59), (0xAA5C, 0xAAC2), (0xAADB, 0xAAF6),
    (0xAB01, 0xAB06), (0xAB09, 0xAB0E), (0xAB11, 0xAB16), (0xAB20, 0xAB26), (0xAB28, 0xAB2E), (0xAB30, 0xAB6B),
    (0xAB70, 0xABED), (0xABF0, 0xABF9), (0xAC00, 0xD7A3), (0xD7B0, 0xD7C6), (0xD7CB, 0xD7FB), (0xF900, 0xFA6D),
    (0xFA70, 0xFAD9), (0xFB00, 0xFB06), (0xFB13, 0xFB17), (0xFB1D, 0xFB36), (0xFB38, 0xFB3C), (0xFB3E, 0xFB3E),
    (0xFB40, 0xFB41), (0xFB43, 0xFB44), (0xFB46, 0xFBC2), (0xFBD3, 0xFD8F), (0xFD92, 0xFDC7), (0xFDCF, 0xFDCF),
    (0xFDF0, 0xFE19), (0xFE20, 0xFE52), (0xFE54, 0xFE66), (0xFE68, 0xFE6B), (0xFE70, 0xFE74), (0xFE76, 0xFEFC),
    (0xFF01, 0xFFBE), (0xFFC2, 0xFFC7), (0xFFCA, 0xFFCF), (0xFFD2, 0xFFD7), (0xFFDA, 0xFFDC), (0xFFE0, 0xFFE6),
    (0xFFE8, 0xFFEE), (0xFFFC, 0xFFFD), (0x10000, 0x1000B), (0x1000D, 0x10026), (0x10028, 0x1003A), (0x1003C, 0x1003D),
    (0x1003F, 0x1004D), (0x10050, 0x1005D), (0x10080, 0x100FA), (0x10100, 0x10102), (0x10107, 0x10133), (0x10137, 0x1018E),
    (0x10190, 0x1019C), (0x101A0, 0x101A0), (0x101D0, 0x101FD), (0x10280, 0x1029C), (0x102A0, 0x102D0), (0x102E0, 0x102FB),
    (0x10300, 0x10323), (0x1032D, 0x1034A), (0x10350, 0x1037A), (0x10380, 0x1039D), (0x1039F, 0x103C3), (0x103C8, 0x103D5),
    (0x10400, 0x1049D), (0x104A0, 0x104A9), (0x104B0, 0x104D3), (0x104D8, 0x104FB), (0x10500, 0x10527), (0x10530, 0x10563),
    (0x1056F, 0x1057A), (0x1057C, 0x1058A), (0x1058C, 0x10592), (0x10594, 0x10595), (0x10597, 0x105A1), (0x105A3, 0x105B1),
    (0x105B3, 0x105B9), (0x105BB, 0x105BC), (0x10600, 0x10736), (0x10740, 0x10755), (0x10760, 0x10767), (0x10780, 0x10785),
    (0x10787, 0x107B0), (0x107B2, 0x107BA), (0x10800, 0x10805), (0x10808, 0x10808), (0x1080A, 0x10835), (0x10837, 0x10838),
    (0x1083C, 0x1083C), (0x1083F, 0x10855), (0x10857, 0x1089E), (0x108A7, 0x108AF), (0x108E0, 0x108F2), (0x108F4, 0x108F5),
    (0x108FB, 0x1091B), (0x1091F, 0x10939), (0x1093F, 0x1093F), (0x10980, 0x109B7)] ++
  [(0x109BC, 0x109CF), (0x109D2, 0x10A03), (0x10A05, 0x10A06), (0x10A0C, 0x10A13), (0x10A15, 0x10A17), (0x10A19, 0x10A35),
    (0x10A38, 0x10A3A), (0x10A3F, 0x10A48), (0x10A50, 0x10A58), (0x10A60, 0x10A9F), (0x10AC0, 0x10AE6), (0x10AEB, 0x10AF6),
    (0x10B00, 0x10B35), (0x10B39, 0x10B55), (0x10B58, 0x10B72), (0x10B78, 0x10B91), (0x10B99, 0x10B9C), (0x10BA9, 0x10BAF),
    (0x10C00, 0x10C48), (0x10C80, 0x10CB2), (0x10CC0, 0x10CF2), (0x10CFA, 0x10D27), (0x10D30, 0x10D39), (0x10E60, 0x10E7E),
    (0x10E80, 0x10EA9), (0x10EAB, 0x10EAD), (0x10EB0, 0x10EB1), (0x10F00, 0x10F27), (0x10F30, 0x10F59), (0x10F70, 0x10F89),
    (0x10FB0, 0x10FCB), (0x10FE0, 0x10FF6), (0x11000, 0x1104D), (0x11052, 0x11075), (0x1107F, 0x110BC), (0x110BE, 0x110C2),
    (0x110D0, 0x110E8), (0x110F0, 0x110F9), (0x11100, 0x11134), (0x11136, 0x11147), (0x11150, 0x11176), (0x11180, 0x111DF),
    (0x111E1, 0x111F4), (0x11200, 0x11211), (0x11213, 0x1123E), (0x11280, 0x11286), (0x11288, 0x11288), (0x1128A, 0x1128D),
    (0x1128F, 0x1129D), (0x1129F, 0x112A9), (0x112B0, 0x112EA), (0x112F0, 0x112F9), (0x11300, 0x11303), (0x11305, 0x1130C),
    (0x1130F, 0x11310), (0x11313, 0x11328), (0x1132A, 0x11330), (0x11332, 0x11333), (0x11335, 0x11339), (0x1133B, 0x11344),
    (0x11347, 0x11348), (0x1134B, 0x1134D), (0x11350, 0x11350), (0x11357, 0x11357), (0x1135D, 0x11363), (0x11366, 0x1136C),
    (0x11370, 0x11374), (0x11400, 0x1145B), (0x1145D, 0x11461), (0x11480, 0x114C7), (0x114D0, 0x114D9), (0x11580, 0x115B5),
    (0x115B8, 0x115DD), (0x11600, 0x11644), (0x11650, 0x11659), (0x11660, 0x1166C), (0x11680, 0x116B9), (0x116C0, 0x116C9),
    (0x11700, 0x1171A), (0x1171D, 0x1172B), (0x11730, 0x11746), (0x11800, 0x1183B), (0x118A0, 0x118F2), (0x118FF, 0x11906),
    (0x11909, 0x11909), (0x1190C, 0x11913), (0x11915, 0x11916), (0x11918, 0x11935), (0x11937, 0x11938), (0x1193B, 0x11946),
    (0x11950, 0x11959), (0x119A0, 0x119A7), (0x119AA, 0x119D7), (0x119DA, 0x119E4), (0x11A00, 0x11A47), (0x11A50, 0x11AA2),
    (0x11AB0, 0x11AF8), (0x11C00, 0x11C08), (0x11C0A, 0x11C36), (0x11C38, 0x11C45)] ++
  [(0x11C50, 0x11C6C), (0x11C70, 0x11C8F), (0x11C92, 0x11CA7), (0x11CA9, 0x11CB6), (0x11D00, 0x11D06), (0x11D08, 0x11D09),
    (0x11D0B, 0x11D36), (0x11D3A, 0x11D3A), (0x11D3C, 0x11D3D), (0x11D3F, 0x11D47), (0x11D50, 0x11D59), (0x11D60, 0x11D65),
    (0x11D67, 0x11D68), (0x11D6A, 0x11D8E), (0x11D90, 0x11D91), (0x11D93, 0x11D98), (0x11DA0, 0x11DA9), (0x11EE0, 0x11EF8),
    (0x11FB0, 0x11FB0), (0x11FC0, 0x11FF1), (0x11FFF, 0x12399), (0x12400, 0x1246E), (0x12470, 0x12474), (0x12480, 0x12543),
    (0x12F90, 0x12FF2), (0x13000, 0x1342E), (0x14400, 0x14646), (0x16800, 0x16A38), (0x16A40, 0x16A5E), (0x16A60, 0x16A69),
    (0x16A6E, 0x16ABE), (0x16AC0, 0x16AC9), (0x16AD0, 0x16AED), (0x16AF0, 0x16AF5), (0x16B00, 0x16B45), (0x16B50, 0x16B59),
    (0x16B5B, 0x16B61), (0x16B63, 0x16B77), (0x16B7D, 0x16B8F), (0x16E40, 0x16E9A), (0x16F00, 0x16F4A), (0x16F4F, 0x16F87),
    (0x16F8F, 0x16F9F), (0x16FE0, 0x16FE4), (0x16FF0, 0x16FF1), (0x17000, 0x187F7), (0x18800, 0x18CD5), (0x18D00, 0x18D08),
    (0x1AFF0, 0x1AFF3), (0x1AFF5, 0x1AFFB), (0x1AFFD, 0x1AFFE), (0x1B000, 0x1B122), (0x1B150, 0x1B152), (0x1B164, 0x1B167),
    (0x1B170, 0x1B2FB), (0x1BC00, 0x1BC6A), (0x1BC70, 0x1BC7C), (0x1BC80, 0x1BC88), (0x1BC90, 0x1BC99), (0x1BC9C, 0x1BC9F),
    (0x1CF00, 0x1CF2D), (0x1CF30, 0x1CF46), (0x1CF50, 0x1CFC3), (0x1D000, 0x1D0F5), (0x1D100, 0x1D126), (0x1D129, 0x1D172),
    (0x1D17B, 0x1D1EA), (0x1D200, 0x1D245), (0x1D2E0, 0x1D2F3), (0x1D300, 0x1D356), (0x1D360, 0x1D378), (0x1D400, 0x1D454),
    (0x1D456, 0x1D49C), (0x1D49E, 0x1D49F), (0x1D4A2, 0x1D4A2), (0x1D4A5, 0x1D4A6), (0x1D4A9, 0x1D4AC), (0x1D4AE, 0x1D4B9),
    (0x1D4BB, 0x1D4BB), (0x1D4BD, 0x1D4C3), (0x1D4C5, 0x1D505), (0x1D507, 0x1D50A), (0x1D50D, 0x1D514), (0x1D516, 0x1D51C),
    (0x1D51E, 0x1D539), (0x1D53B, 0x1D53E), (0x1D540, 0x1D544), (0x1D546, 0x1D546), (0x1D54A, 0x1D550), (0x1D552, 0x1D6A5),
    (0x1D6A8, 0x1D7CB), (0x1D7CE, 0x1DA8B), (0x1DA9B, 0x1DA9F), (0x1DAA1, 0x1DAAF), (0x1DF00, 0x1DF1E), (0x1E000, 0x1E006),
    (0x1E008, 0x1E018), (0x1E01B, 0x1E021), (0x1E023, 0x1E024), (0x1E026, 0x1E02A)] ++
  [(0x1E100, 0x1E12C), (0x1E130, 0x1E13D), (0x1E140, 0x1E149), (0x1E14E, 0x1E14F), (0x1E290, 0x1E2AE), (0x1E2C0, 0x1E2F9),
    (0x1E2FF, 0x1E2FF), (0x1E7E0, 0x1E7E6), (0x1E7E8, 0x1E7EB), (0x1E7ED, 0x1E7EE), (0x1E7F0, 0x1E7FE), (0x1E800, 0x1E8C4),
    (0x1E8C7, 0x1E8D6), (0x1E900, 0x1E94B), (0x1E950, 0x1E959), (0x1E95E, 0x1E95F), (0x1EC71, 0x1ECB4), (0x1ED01, 0x1ED3D),
    (0x1EE00, 0x1EE03), (0x1EE05, 0x1EE1F), (0x1EE21, 0x1EE22), (0x1EE24, 0x1EE24), (0x1EE27, 0x1EE27), (0x1EE29, 0x1EE32),
    (0x1EE34, 0x1EE37), (0x1EE39, 0x1EE39), (0x1EE3B, 0x1EE3B), (0x1EE42, 0x1EE42), (0x1EE47, 0x1EE47), (0x1EE49, 0x1EE49),
    (0x1EE4B, 0x1EE4B), (0x1EE4D, 0x1EE4F), (0x1EE51, 0x1EE52), (0x1EE54, 0x1EE54), (0x1EE57, 0x1EE57), (0x1EE59, 0x1EE59),
    (0x1EE5B, 0x1EE5B), (0x1EE5D, 0x1EE5D), (0x1EE5F, 0x1EE5F), (0x1EE61, 0x1EE62), (0x1EE64, 0x1EE64), (0x1EE67, 0x1EE6A),
    (0x1EE6C, 0x1EE72), (0x1EE74, 0x1EE77), (0x1EE79, 0x1EE7C), (0x1EE7E, 0x1EE7E), (0x1EE80, 0x1EE89), (0x1EE8B, 0x1EE9B),
    (0x1EEA1, 0x1EEA3), (0x1EEA5, 0x1EEA9), (0x1EEAB, 0x1EEBB), (0x1EEF0, 0x1EEF1), (0x1F000, 0x1F02B), (0x1F030, 0x1F093),
    (0x1F0A0, 0x1F0AE), (0x1F0B1, 0x1F0BF), (0x1F0C1, 0x1F0CF), (0x1F0D1, 0x1F0F5), (0x1F100, 0x1F1AD), (0x1F1E6, 0x1F202),
    (0x1F210, 0x1F23B), (0x1F240, 0x1F248), (0x1F250, 0x1F251), (0x1F260, 0x1F265), (0x1F300, 0x1F6D7), (0x1F6DD, 0x1F6EC),
    (0x1F6F0, 0x1F6FC), (0x1F700, 0x1F773), (0x1F780, 0x1F7D8), (0x1F7E0, 0x1F7EB), (0x1F7F0, 0x1F7F0), (0x1F800, 0x1F80B),
    (0x1F810, 0x1F847), (0x1F850, 0x1F859), (0x1F860, 0x1F887), (0x1F890, 0x1F8AD), (0x1F8B0, 0x1F8B1), (0x1F900, 0x1FA53),
    (0x1FA60, 0x1FA6D), (0x1FA70, 0x1FA74), (0x1FA78, 0x1FA7C), (0x1FA80, 0x1FA86), (0x1FA90, 0x1FAAC), (0x1FAB0, 0x1FABA),
    (0x1FAC0, 0x1FAC5), (0x1FAD0, 0x1FAD9), (0x1FAE0, 0x1FAE7), (0x1FAF0, 0x1FAF6), (0x1FB00, 0x1FB92), (0x1FB94, 0x1FBCA),
    (0x1FBF0, 0x1FBF9), (0x20000, 0x2A6DF), (0x2A700, 0x2B738), (0x2B740, 0x2B81D), (0x2B820, 0x2CEA1), (0x2CEB0, 0x2EBE0),
    (0x2F800, 0x2FA1D), (0x30000, 0x3134A), (0xE0100, 0xE01EF)]

/-- `str.isprintable()` on one character. -/
def isPrintable (c : Char) : Bool :=
  if c.toNat < 128 then 32 ≤ c.toNat && c.toNat < 127
  else printableRanges.any fun r ↦ r.1 ≤ c.toNat && c.toNat ≤ r.2

/-- `n` in `k` lowercase hexadecimal digits. -/
def hexDigits (k n : ℕ) : List Char :=
  (List.range k).reverse.map fun i ↦ "0123456789abcdef".toList.getD (n / 16 ^ i % 16) '0'

/-- One character of `repr(s)` between the quotes `q`. -/
def reprChar (q c : Char) : List Char :=
  if c = q ∨ c = '\\' then ['\\', c]
  else if c = '\t' then ['\\', 't']
  else if c = '\n' then ['\\', 'n']
  else if c = '\r' then ['\\', 'r']
  else if isPrintable c then [c]
  else if c.toNat < 0x100 then '\\' :: 'x' :: hexDigits 2 c.toNat
  else if c.toNat < 0x10000 then '\\' :: 'u' :: hexDigits 4 c.toNat
  else '\\' :: 'U' :: hexDigits 8 c.toNat

/-- `repr(s)`: in single quotes, or in double quotes when `s` has a single
quote and no double one. -/
def pyRepr (s : String) : String :=
  let q := if '\'' ∈ s.data ∧ '"' ∉ s.data then '"' else '\''
  ⟨q :: s.data.flatMap (reprChar q) ++ [q]⟩

/-- `str.strip()`. -/
def strip (s : List Char) : List Char :=
  ((s.dropWhile isSpace).reverse.dropWhile isSpace).reverse

/-- `str.split()`: maximal runs of non-space characters. -/
def split (s : List Char) : List (List Char) :=
  (s.splitOnP isSpace).filter (· ≠ [])

/-- `str.strip(chars)`: drop characters of `cs` at both ends. -/
def stripChars (cs s : List Char) : List Char :=
  ((s.dropWhile (· ∈ cs)).reverse.dropWhile (· ∈ cs)).reverse

/-- `str.rstrip(chars)`: drop characters of `cs` at the end. -/
def rstripChars (cs s : List Char) : List Char :=
  (s.reverse.dropWhile (· ∈ cs)).reverse

/-- `s.partition(sep)` for a one-character separator: the text before its
first occurrence and the text after it (all of `s` and `[]` without one). -/
def partition (sep : Char) (s : List Char) : List Char × List Char :=
  (s.takeWhile (· != sep), (s.dropWhile (· != sep)).drop 1)

/-- A line boundary of `str.splitlines`. -/
def isLineBreak (c : Char) : Bool :=
  c == '\n' || c == '\r' || c == '\x0b' || c == '\x0c' || c == '\x1c' || c == '\x1d' ||
    c == '\x1e' || c == '\x85' || c == '\u2028' || c == '\u2029'

/-- `str.splitlines()` with the current line in reverse in `acc`: `\r\n` is one
boundary, and a final boundary opens no empty line. -/
def splitlinesGo : List Char → List Char → List (List Char)
  | [], acc => if acc = [] then [] else [acc.reverse]
  | '\r' :: '\n' :: rest, acc => acc.reverse :: splitlinesGo rest []
  | c :: rest, acc => if isLineBreak c then acc.reverse :: splitlinesGo rest [] else
      splitlinesGo rest (c :: acc)

/-- `str.splitlines()`. -/
def splitlines (s : List Char) : List (List Char) := splitlinesGo s []

/-- One step of `splitlinesGo` at a character other than `\r`, read off the
compiled recursor: the equation lemmas of the character patterns are slow to
generate. -/
theorem splitlinesGo_cons {c : Char} (hc : c ≠ '\r') (rest acc : List Char) :
    splitlinesGo (c :: rest) acc =
      if isLineBreak c then acc.reverse :: splitlinesGo rest [] else splitlinesGo rest (c :: acc) := by
  delta splitlinesGo splitlinesGo.match_1 List.brecOn
  dsimp only
  rw [dif_neg hc]

/-- `sep.join(parts)`. -/
def join (sep : List Char) (parts : List (List Char)) : List Char :=
  sep.intercalate parts

/-- `sub in s` for strings. -/
def contains (s sub : List Char) : Bool := s.tails.any (sub.isPrefixOf ·)

/-- `s.startswith(p)`. -/
def startsWith (s p : List Char) : Bool := p.isPrefixOf s

/-- `s < t` for strings: code points compared left to right, a proper prefix
first. -/
def ltChars : List Char → List Char → Bool
  | _, [] => false
  | [], _ :: _ => true
  | a :: s, b :: t => a.toNat < b.toNat || (a.toNat == b.toNat && ltChars s t)

theorem char_eq_of_toNat_eq {a b : Char} (h : a.toNat = b.toNat) : a = b := by
  rw [← Char.ofNat_toNat a, h, Char.ofNat_toNat]

@[simp] theorem ltChars_self : ∀ s, ltChars s s = false
  | [] => rfl
  | c :: s => by simp [ltChars, ltChars_self s]

theorem ltChars_trans : ∀ {s t u : List Char}, ltChars s t → ltChars t u → ltChars s u
  | _, [], _, h, _ => by simp [ltChars] at h
  | _, _ :: _, [], _, h => by simp [ltChars] at h
  | [], _ :: _, _ :: _, _, _ => rfl
  | a :: s, b :: t, c :: u, h₁, h₂ => by
      simp only [ltChars, Bool.or_eq_true, Bool.and_eq_true, decide_eq_true_eq, beq_iff_eq] at *
      rcases h₁ with h₁ | ⟨e₁, h₁⟩ <;> rcases h₂ with h₂ | ⟨e₂, h₂⟩
      · exact .inl (by omega)
      · exact .inl (by omega)
      · exact .inl (by omega)
      · exact .inr ⟨e₁.trans e₂, ltChars_trans h₁ h₂⟩

theorem ltChars_total : ∀ {s t : List Char}, s ≠ t → ltChars s t ∨ ltChars t s
  | [], [], h => absurd rfl h
  | [], _ :: _, _ => .inl rfl
  | _ :: _, [], _ => .inr rfl
  | a :: s, b :: t, h => by
      simp only [ltChars, Bool.or_eq_true, Bool.and_eq_true, decide_eq_true_eq, beq_iff_eq]
      rcases Nat.lt_trichotomy a.toNat b.toNat with hab | hab | hab
      · exact .inl (.inl hab)
      · have hst : s ≠ t := fun hst ↦ h (by rw [char_eq_of_toNat_eq hab, hst])
        exact (ltChars_total hst).imp (fun h ↦ .inr ⟨hab, h⟩) fun h ↦ .inr ⟨hab.symm, h⟩
      · exact .inr (.inl hab)

/-- Non-overlapping occurrences of a non-empty `sub`, left to right; `skip`
counts the characters still covered by the previous occurrence. -/
def countSubGo (sub : List Char) : ℕ → List Char → ℕ
  | _, [] => 0
  | 0, x :: xs =>
      if sub.isPrefixOf (x :: xs) then countSubGo sub (sub.length - 1) xs + 1
      else countSubGo sub 0 xs
  | skip + 1, _ :: xs => countSubGo sub skip xs

/-- The pieces of `s.split(sep)` for a non-empty `sep`, with the current piece
reversed in `acc`; `skip` counts the characters of the occurrence just cut. -/
def splitOnStrGo (sep : List Char) : ℕ → List Char → List Char → List (List Char)
  | _, acc, [] => [acc.reverse]
  | skip + 1, acc, _ :: xs => splitOnStrGo sep skip acc xs
  | 0, acc, x :: xs =>
      if sep.isPrefixOf (x :: xs) then acc.reverse :: splitOnStrGo sep (sep.length - 1) [] xs
      else splitOnStrGo sep 0 (x :: acc) xs

/-- `s.split(sep)` for a non-empty separator string. -/
def splitOnStr (sep s : List Char) : List (List Char) := splitOnStrGo sep 0 [] s

/-- `s.replace(old, new)` for a non-empty `old`: `new.join(s.split(old))`. -/
def replaceStr (old new s : List Char) : List Char := join new (splitOnStr old s)

/-- `s.count(sub)`. -/
def countSub (s sub : List Char) : ℕ :=
  if sub = [] then s.length + 1 else countSubGo sub 0 s

/-- `content[:pos].count('\n') + 1`: the 1-based line of a character offset. -/
def lineNo (text : List Char) (pos : ℕ) : ℕ := (text.take pos).count '\n' + 1

theorem length_splitOnP_go {α : Type} (P : α → Bool) :
    ∀ l acc : List α, (List.splitOnP.go P l acc).length = l.countP P + 1
  | [], _ => rfl
  | a :: t, acc => by
      by_cases h : P a
      · simp [List.splitOnP.go, h, length_splitOnP_go P t, List.countP_cons_of_pos]
      · simp [List.splitOnP.go, h, length_splitOnP_go P t, List.countP_cons_of_neg]

theorem length_splitOn (l : List Char) (c : Char) : (l.splitOn c).length = l.count c + 1 := by
  simp [List.splitOn, List.splitOnP, length_splitOnP_go, List.count]

theorem lineNo_le_length_splitOn (text : List Char) (p : ℕ) :
    lineNo text p ≤ (text.splitOn '\n').length := by
  rw [length_splitOn, lineNo]
  have := (List.take_sublist p text).count_le '\n'
  omega

theorem lineNo_lt_of_getLast {text : List Char} (h : text.getLast? = some '\n') {p : ℕ}
    (hp : p < text.length) : lineNo text p < (text.splitOn '\n').length := by
  have hne : text.drop p ≠ [] := by simpa using hp
  have hlast : (text.drop p).getLast? = some '\n' := by
    rw [← List.take_append_drop p text, List.getLast?_append_of_ne_nil _ hne] at h
    exact h
  have hmem : '\n' ∈ text.drop p := List.mem_of_getLast?_eq_some hlast
  have hsplit := List.count_append '\n' (text.take p) (text.drop p)
  rw [List.take_append_drop] at hsplit
  rw [length_splitOn, lineNo]
  have := List.count_pos_iff.mpr hmem
  omega

/-! ### `splitlines` against `split('\n')`

Where `\n` is the text's only line break, the lines of `splitlines` are the
parts of `split('\n')`, and part `i` is the line that begins after the `i`-th
newline. -/

/-- The text of the line that begins at offset `o`. -/
def lineAt (text : List Char) (o : ℕ) : List Char := (text.drop o).takeWhile (· != '\n')

theorem splitOnP_go_eq_splitlinesGo :
    ∀ {text : List Char}, (∀ c ∈ text, isLineBreak c → c = '\n') → ∀ acc,
      List.splitOnP.go (· == '\n') text acc = splitlinesGo text acc ∨
        List.splitOnP.go (· == '\n') text acc = splitlinesGo text acc ++ [[]]
  | [], _, [] => .inr rfl
  | [], _, _ :: _ => .inl rfl
  | c :: t, h, acc => by
      have ht : ∀ d ∈ t, isLineBreak d → d = '\n' := fun d hd ↦ h d (List.mem_cons_of_mem c hd)
      have hc : c ≠ '\r' := by rintro rfl; exact absurd (h _ (List.mem_cons_self _ _) rfl) (by decide)
      rw [splitlinesGo_cons hc, List.splitOnP.go]
      by_cases hb : isLineBreak c
      · obtain rfl := h c (List.mem_cons_self _ _) hb
        simpa [hb] using splitOnP_go_eq_splitlinesGo ht []
      · have hn : c ≠ '\n' := by rintro rfl; exact hb rfl
        simpa [hb, hn] using splitOnP_go_eq_splitlinesGo ht (c :: acc)

/-- `text.split('\n')` is `text.splitlines()`, with one empty line more when the
text is empty or ends with a newline. -/
theorem splitOn_eq_splitlines {text : List Char} (h : ∀ c ∈ text, isLineBreak c → c = '\n') :
    text.splitOn '\n' = splitlines text ∨ text.splitOn '\n' = splitlines text ++ [[]] :=
  splitOnP_go_eq_splitlinesGo h []

theorem getD_splitlines {text : List Char} (h : ∀ c ∈ text, isLineBreak c → c = '\n') (i : ℕ) :
    (splitlines text).getD i [] = (text.splitOn '\n').getD i [] := by
  rcases splitOn_eq_splitlines h with h' | h' <;> rw [h']
  by_cases hi : i < (splitlines text).length
  · rw [List.getD_append _ _ _ _ hi]
  · rw [List.getD_append_right _ _ _ _ (by omega), List.getD_eq_default _ _ (by omega)]
    cases i - (splitlines text).length <;> rfl

theorem getElem?_splitOn_of_splitlines {text : List Char} (h : ∀ c ∈ text, isLineBreak c → c = '\n')
    {i : ℕ} {l : List Char} (hl : (splitlines text)[i]? = some l) : (text.splitOn '\n')[i]? = some l := by
  rcases splitOn_eq_splitlines h with h' | h' <;> rw [h']
  · exact hl
  · rwa [List.getElem?_append_left (List.getElem?_eq_some_iff.mp hl).1]

theorem splitOn_cons (c : Char) (t : List Char) :
    (c :: t).splitOn '\n' =
      if c = '\n' then [] :: t.splitOn '\n' else (t.splitOn '\n').modifyHead (c :: ·) := by
  simp [List.splitOn, List.splitOnP_cons]

theorem getElem?_zero_splitOn : ∀ text : List Char,
    (text.splitOn '\n')[0]? = some (text.takeWhile (· != '\n'))
  | [] => rfl
  | c :: t => by
      by_cases hc : c = '\n'
      · simp [splitOn_cons, hc]
      · simp [splitOn_cons, hc, List.getElem?_modifyHead_zero, getElem?_zero_splitOn t]

theorem exists_lineStart_of_splitOn : ∀ {text : List Char} {i : ℕ} {l : List Char},
    (text.splitOn '\n')[i]? = some l →
      ∃ o, (o = 0 ∨ text[o - 1]? = some '\n') ∧ lineNo text o = i + 1 ∧ lineAt text o = l
  | text, 0, l, h => ⟨0, .inl rfl, rfl, by
      rw [getElem?_zero_splitOn] at h; exact Option.some_injective _ h⟩
  | [], _ + 1, _, h => nomatch h
  | c :: t, j + 1, l, h => by
      by_cases hc : c = '\n'
      · rw [splitOn_cons, if_pos hc, List.getElem?_cons_succ] at h
        obtain ⟨o, hs, hn, hl⟩ := exists_lineStart_of_splitOn h
        refine ⟨o + 1, .inr ?_, ?_, hl⟩
        · rcases o with _ | o
          · simp [hc]
          · simpa using hs
        · simp [lineNo, List.count_cons, hc] at hn ⊢; omega
      · rw [splitOn_cons, if_neg hc, List.getElem?_modifyHead_succ] at h
        obtain ⟨o, hs, hn, hl⟩ := exists_lineStart_of_splitOn h
        refine ⟨o + 1, .inr ?_, ?_, hl⟩
        · rcases o with _ | o
          · simp [lineNo] at hn
          · simpa using hs.resolve_left (Nat.succ_ne_zero o)
        · simp [lineNo, List.count_cons, hc] at hn ⊢; omega

/-- A Python slice bound: negative values count from the end, and the result
is clipped to `[0, n]`. -/
def sliceBound (n : ℕ) (i : ℤ) : ℕ :=
  if i < 0 then (n + i).toNat else min i.toNat n

/-- `xs[a:b]`. -/
def slice {α : Type} (xs : List α) (a b : ℤ) : List α :=
  (xs.take (sliceBound xs.length b)).drop (sliceBound xs.length a)

/-- `xs[i]` for `i ≥ 0`, which raises `IndexError` past the end. -/
def getItem {α : Type} (xs : List α) (i : ℕ) : Except String α :=
  match xs.get? i with
  | some x => .ok x
  | none => .error "IndexError: list index out of range"

/-- `xs[i]` for any integer `i`: a negative index counts from the end. -/
def getItemInt {α : Type} (xs : List α) (i : ℤ) : Except String α :=
  if 0 ≤ i then getItem xs i.toNat
  else if -(xs.length : ℤ) ≤ i then getItem xs (xs.length - i.natAbs)
  else .error "IndexError: list index out of range"

/-! ## Doubles -/

/-- `a / b` rounded to the nearest integer, ties to even. -/
def divHalfEven (a : ℤ) (b : ℕ) : ℤ :=
  let q := a / b
  let r := a % b
  if 2 * r < b then q else if (b : ℤ) < 2 * r then q + 1 else if q % 2 = 0 then q else q + 1

/-- `⌊log₂ |q|⌋` of a non-zero rational. -/
def binaryExponent (q : ℚ) : ℤ :=
  let n := q.num.natAbs
  let e₀ : ℤ := (n.log2 : ℤ) - q.den.log2
  if 0 ≤ e₀ then (if q.den * 2 ^ e₀.toNat ≤ n then e₀ else e₀ - 1)
  else if q.den ≤ n * 2 ^ (-e₀).toNat then e₀ else e₀ - 1

/-- The binary64 double nearest to `q`, ties to even: a multiple of
`2 ^ (e - 52)` for `q` in `[2 ^ e, 2 ^ (e + 1))` and `e ≥ -1022`, of
`2 ^ (-1074)` below.  The values the analyzers compute lie far below the
overflow threshold `2 ^ 1024`. -/
def toBinary64 (q : ℚ) : ℚ :=
  if q.num = 0 then 0
  else
    let k := 52 - max (binaryExponent q) (-1022)
    if 0 ≤ k then mkRat (divHalfEven (q.num * 2 ^ k.toNat) q.den) (2 ^ k.toNat)
    else (divHalfEven q.num (q.den * 2 ^ (-k).toNat) * 2 ^ (-k).toNat : ℤ)

/-- `round(x, 2)` of a double `x`: its exact value rounded to hundredths, ties
to even, then read back as the nearest double. -/
def round2 (x : ℚ) : ℚ := toBinary64 (mkRat (divHalfEven (x.num * 100) x.den) 100)

theorem toBinary64_one : toBinary64 1 = 1 := by with_unfolding_all rfl

theorem round2_one : round2 1 = 1 := by with_unfolding_all rfl

/- The double nearest to `0.925` lies above it, so `round(37 / 40, 2)` is
`0.93`, where rounding `0.925` itself to even gives `0.92`. -/
example : round2 (toBinary64 (37 / 40)) = toBinary64 (93 / 100) := by with_unfolding_all rfl

/-! ## `str(n)` and f-string keys -/

/-- The number a string of decimal digits denotes: the inverse of `str(n)`. -/
def decimalValue (ds : List Char) : ℕ := ds.foldl (fun a c ↦ 10 * a + (c.toNat - 48)) 0

theorem digitChar_toNat {d : ℕ} (h : d < 10) : (Nat.digitChar d).toNat = 48 + d := by
  revert d
  decide

theorem toDigitsCore_append (f n : ℕ) (ds : List Char) :
    Nat.toDigitsCore 10 f n ds = Nat.toDigitsCore 10 f n [] ++ ds := by
  induction f generalizing n ds with
  | zero => rfl
  | succ f ih =>
      simp only [Nat.toDigitsCore]
      split
      · rfl
      · rw [ih _ (_ :: ds), ih _ [_], List.append_assoc, List.singleton_append]

theorem toNat_lt_of_mem_toDigitsCore :
    ∀ (f n : ℕ), ∀ c ∈ Nat.toDigitsCore 10 f n [], c.toNat < 58
  | 0, _, _, h => absurd h (List.not_mem_nil _)
  | f + 1, n, c, h => by
      have hd := digitChar_toNat (Nat.mod_lt n (show 0 < 10 by decide))
      simp only [Nat.toDigitsCore] at h
      split at h
      · rw [List.mem_singleton.mp h, hd]
        omega
      · rw [toDigitsCore_append, List.mem_append, List.mem_singleton] at h
        rcases h with h | rfl
        · exact toNat_lt_of_mem_toDigitsCore f _ c h
        · rw [hd]
          omega

theorem decimalValue_toDigitsCore : ∀ f n : ℕ, n < f → decimalValue (Nat.toDigitsCore 10 f n []) = n
  | 0, n, h => absurd h (Nat.not_lt_zero n)
  | f + 1, n, h => by
      have hd := digitChar_toNat (Nat.mod_lt n (show 0 < 10 by decide))
      simp only [Nat.toDigitsCore]
      split
      · simp only [decimalValue, List.foldl_cons, List.foldl_nil, hd]
        omega
      · rw [toDigitsCore_append, decimalValue, List.foldl_append, ← decimalValue,
          decimalValue_toDigitsCore f _ (by omega)]
        simp only [List.foldl_cons, List.foldl_nil, hd]
        omega

theorem decimalValue_toString (n : ℕ) : decimalValue (toString n).data = n :=
  decimalValue_toDigitsCore (n + 1) n (Nat.lt_succ_self n)

theorem toString_nat_injective : Function.Injective (toString : ℕ → String) := fun a b h ↦ by
  rw [← decimalValue_toString a, ← decimalValue_toString b, h]

theorem colon_not_mem_toString (n : ℕ) : ':' ∉ (toString n).data := fun h ↦
  absurd (toNat_lt_of_mem_toDigitsCore (n + 1) n ':' h) (by decide)

theorem append_cons_inj_of_not_mem {α : Type} {sep : α} :
    ∀ {a b s t : List α}, sep ∉ s → sep ∉ t → a ++ sep :: s = b ++ sep :: t → a = b ∧ s = t
  | [], [], _, _, _, _, h => ⟨rfl, (List.cons.inj h).2⟩
  | [], _ :: b, _, t, hs, _, h => absurd (by rw [(List.cons.inj h).2]; simp) hs
  | _ :: a, [], s, _, _, ht, h => absurd (by rw [← (List.cons.inj h).2]; simp) ht
  | x :: a, y :: b, _, _, hs, ht, h => by
      obtain ⟨rfl, h'⟩ := List.cons.inj h
      obtain ⟨rfl, rfl⟩ := append_cons_inj_of_not_mem hs ht h'
      exact ⟨rfl, rfl⟩

theorem colonKey_inj {a b : String} {m n : ℕ} (h : a ++ ":" ++ toString m = b ++ ":" ++ toString n) :
    a = b ∧ m = n := by
  have h' := congrArg String.data h
  simp only [String.data_append] at h'
  obtain ⟨hab, hmn⟩ := append_cons_inj_of_not_mem (colon_not_mem_toString m)
    (colon_not_mem_toString n) (by simpa using h')
  exact ⟨String.ext hab, toString_nat_injective (String.ext hmn)⟩

/-! ## Raising code -/

theorem getItem_ok_iff {α : Type} (xs : List α) (i : ℕ) :
    (∃ x, getItem xs i = .ok x) ↔ i < xs.length := by
  unfold getItem
  cases h : xs.get? i with
  | none => simp [List.get?_eq_none.mp h]
  | some x => simp [(List.get?_eq_some.mp h).1]

theorem getItem_error {α : Type} {xs : List α} {i : ℕ} {e : String} (h : getItem xs i = .error e) :
    e = "IndexError: list index out of range" := by
  unfold getItem at h
  split at h <;> cases h
  rfl

/-- A loop over a list that may raise runs to completion exactly when no
iteration raises. -/
theorem mapM_ok_iff {ε α β : Type} (f : α → Except ε β) :
    ∀ l : List α, (∃ ys, l.mapM f = .ok ys) ↔ ∀ x ∈ l, ∃ y, f x = .ok y
  | [] => ⟨fun _ _ h ↦ absurd h (List.not_mem_nil _), fun _ ↦ ⟨[], rfl⟩⟩
  | a :: l => by
      rw [List.mapM_cons, List.forall_mem_cons, ← mapM_ok_iff f l]
      cases f a <;> cases l.mapM f <;> simp [bind, Except.bind, pure, Except.pure]

theorem mapM_eq_ok_map {ε α β : Type} {f : α → Except ε β} {g : α → β} :
    ∀ {l : List α}, (∀ x ∈ l, f x = .ok (g x)) → l.mapM f = .ok (l.map g)
  | [], _ => rfl
  | a :: l, h => by
      rw [List.mapM_cons, h a (List.mem_cons_self a l),
        mapM_eq_ok_map fun x hx ↦ h x (List.mem_cons_of_mem a hx)]
      rfl

theorem bind_eq_ok {ε α β : Type} {x : Except ε α} {f : α → Except ε β} {b : β} :
    x.bind f = .ok b ↔ ∃ a, x = .ok a ∧ f a = .ok b := by
  cases x <;> simp [Except.bind]

theorem bind_eq_error {ε α β : Type} {x : Except ε α} {f : α → Except ε β} {e : ε} :
    x.bind f = .error e ↔ x = .error e ∨ ∃ a, x = .ok a ∧ f a = .error e := by
  cases x <;> simp [Except.bind]

theorem map_eq_ok {ε α β : Type} {x : Except ε α} {f : α → β} {b : β} :
    x.map f = .ok b ↔ ∃ a, x = .ok a ∧ f a = b := by
  cases x <;> simp [Except.map]

theorem map_eq_error {ε α β : Type} {x : Except ε α} {f : α → β} {e : ε} :
    x.map f = .error e ↔ x = .error e := by
  cases x <;> simp [Except.map]

theorem exists_map_eq_ok {ε α β : Type} {x : Except ε α} (f : α → β) (h : ∃ a, x = .ok a) :
    ∃ b, x.map f = .ok b := by
  obtain ⟨a, rfl⟩ := h
  exact ⟨f a, rfl⟩

theorem mapM_eq_ok_elim {ε α β : Type} [Inhabited β] {f : α → Except ε β} {l : List α} {ys : List β}
    (h : l.mapM f = .ok ys) : ∃ g : α → β, (∀ x ∈ l, f x = .ok (g x)) ∧ ys = l.map g := by
  let g : α → β := fun x ↦ match f x with
    | .ok y => y
    | .error _ => default
  have hg : ∀ x ∈ l, f x = .ok (g x) := fun x hx ↦ by
    obtain ⟨y, hy⟩ := (mapM_ok_iff f l).mp ⟨ys, h⟩ x hx
    simp only [g, hy]
  refine ⟨g, hg, ?_⟩
  rw [mapM_eq_ok_map hg] at h
  exact (Except.ok.inj h).symm

/-- A loop with state whose every iteration either computes `g` or raises
`e` computes the fold of `g` or raises `e`. -/
theorem foldlM_ok_or_error {ε α β : Type} {f : β → α → Except ε β} {g : β → α → β} {e : ε} :
    ∀ {l : List α}, (∀ b, ∀ x ∈ l, f b x = .ok (g b x) ∨ f b x = .error e) →
      ∀ b, l.foldlM f b = .ok (l.foldl g b) ∨ l.foldlM f b = .error e
  | [], _, _ => .inl rfl
  | a :: l, h, b => by
      rw [List.foldlM_cons, List.foldl_cons]
      rcases h b a (List.mem_cons_self a l) with ha | ha <;> rw [ha]
      · exact foldlM_ok_or_error (fun b x hx ↦ h b x (List.mem_cons_of_mem a hx)) _
      · exact .inr rfl

theorem foldlM_eq_ok_foldl {ε α β : Type} {f : β → α → Except ε β} {g : β → α → β} :
    ∀ {l : List α}, (∀ b, ∀ x ∈ l, f b x = .ok (g b x)) → ∀ b, l.foldlM f b = .ok (l.foldl g b)
  | [], _, _ => rfl
  | a :: l, h, b => by
      rw [List.foldlM_cons, List.foldl_cons, h b a (List.mem_cons_self a l)]
      exact foldlM_eq_ok_foldl (fun b x hx ↦ h b x (List.mem_cons_of_mem a hx)) _

theorem mapM_error_of {ε α β : Type} {f : α → Except ε β} {P : ε → Prop}
    (hf : ∀ x e, f x = .error e → P e) : ∀ {l : List α} {e : ε}, l.mapM f = .error e → P e
  | [], _, h => by cases h
  | a :: l, e, h => by
      rw [List.mapM_cons] at h
      cases hfa : f a with
      | error e' =>
          rw [hfa] at h
          cases h
          exact hf a _ hfa
      | ok b =>
          rw [hfa] at h
          cases hl : l.mapM f with
          | error e' =>
              rw [hl] at h
              cases h
              exact mapM_error_of hf hl
          | ok bs =>
              rw [hl] at h
              cases h

theorem mapM_eq_error {ε α β : Type} {f : α → Except ε β} {e : ε}
    (he : ∀ x e', f x = .error e' → e' = e) :
    ∀ {l : List α}, (∃ x ∈ l, ∃ e', f x = .error e') → l.mapM f = .error e
  | a :: l, ⟨x, hx, e', hfx⟩ => by
      rw [List.mapM_cons]
      cases hfa : f a with
      | error e'' =>
          rw [he a e'' hfa]
          rfl
      | ok b =>
          rcases List.mem_cons.mp hx with rfl | hx
          · rw [hfa] at hfx
            cases hfx
          · rw [mapM_eq_error he ⟨x, hx, e', hfx⟩]
            rfl

theorem mapM_perm_cases {ε α β : Type} [Inhabited β] (f : α → Except ε β) (e : ε)
    (he : ∀ x e', f x = .error e' → e' = e) {l₁ l₂ : List α} (h : l₁.Perm l₂) :
    (l₁.mapM f = .error e ∧ l₂.mapM f = .error e) ∨
      ∃ g : α → β, (∀ x ∈ l₁, f x = .ok (g x)) ∧ l₁.mapM f = .ok (l₁.map g) ∧
        l₂.mapM f = .ok (l₂.map g) := by
  let g : α → β := fun x ↦ match f x with
    | .ok y => y
    | .error _ => default
  by_cases hall : ∀ x ∈ l₁, f x = .ok (g x)
  · exact .inr ⟨g, hall, mapM_eq_ok_map hall, mapM_eq_ok_map fun x hx ↦ hall x (h.mem_iff.mpr hx)⟩
  · push_neg at hall
    obtain ⟨x, hx, hne⟩ := hall
    have hraise : ∃ e', f x = .error e' := by
      cases hfx : f x with
      | error e' => exact ⟨e', rfl⟩
      | ok y => exact absurd (by simp only [g, hfx]) hne
    exact .inl ⟨mapM_eq_error he ⟨x, hx, hraise⟩, mapM_eq_error he ⟨x, h.mem_iff.mp hx, hraise⟩⟩

theorem any_eq_of_perm {α : Type} {l₁ l₂ : List α} (h : l₁.Perm l₂) (p : α → Bool) :
    l₁.any p = l₂.any p :=
  Bool.eq_iff_iff.mpr (by simp only [List.any_eq_true]; exact exists_congr fun _ ↦ and_congr_left' h.mem_iff)

/-! ## Paths -/

/-- `Path(path).parts` of a POSIX path, with `""` standing for the root `/`:
empty and `.` components are dropped. -/
def pathParts (path : String) : List String :=
  (if path.data.head? = some '/' then [""] else []) ++
    ((path.data.splitOn '/').map String.mk).filter fun c ↦ c ≠ "" ∧ c ≠ "."

/-- `Path(path).name`: the last component, empty for the root and for `.`. -/
def pathName (path : String) : String := ((pathParts path).getLast?).getD ""

/-! ## Dictionaries in insertion order -/

section Dict

variable {κ ν : Type} [DecidableEq κ]

/-- `d[k]` as an option. -/
def dictGet : List (κ × ν) → κ → Option ν
  | [], _ => none
  | (k', v) :: d, k => if k' = k then some v else dictGet d k

/-- `d[k] = v`: an existing key keeps its place, a new one goes last. -/
def dictSet : List (κ × ν) → κ → ν → List (κ × ν)
  | [], k, v => [(k, v)]
  | (k', v') :: d, k, v => if k' = k then (k, v) :: d else (k', v') :: dictSet d k v

/-- `d[k] = f(d[k])` on a `defaultdict` whose missing entries start at `dflt`. -/
def dictModify (d : List (κ × ν)) (k : κ) (dflt : ν) (f : ν → ν) : List (κ × ν) :=
  dictSet d k (f ((dictGet d k).getD dflt))

@[simp] theorem dictGet_nil (k : κ) : dictGet ([] : List (κ × ν)) k = none := rfl

theorem dictGet_cons (k k' : κ) (v : ν) (d : List (κ × ν)) :
    dictGet ((k', v) :: d) k = if k' = k then some v else dictGet d k := rfl

@[simp] theorem dictGet_dictSet (d : List (κ × ν)) (k k' : κ) (v : ν) :
    dictGet (dictSet d k v) k' = if k = k' then some v else dictGet d k' := by
  induction d with
  | nil => simp [dictSet, dictGet]
  | cons e d ih =>
      obtain ⟨k₀, v₀⟩ := e
      by_cases h : k₀ = k
      · subst h
        by_cases h' : k₀ = k' <;> simp [dictSet, dictGet, h']
      · simp only [dictSet, h, if_false, dictGet_cons, ih]
        by_cases h₁ : k₀ = k' <;> by_cases h₂ : k = k' <;> simp_all

theorem mem_dictSet {d : List (κ × ν)} {k : κ} {v : ν} {e : κ × ν} (h : e ∈ dictSet d k v) :
    e = (k, v) ∨ e ∈ d := by
  induction d with
  | nil => exact .inl (List.mem_singleton.mp h)
  | cons e' d ih =>
      unfold dictSet at h
      split_ifs at h
      · exact (List.mem_cons.mp h).imp_right (List.mem_cons_of_mem _)
      · rcases List.mem_cons.mp h with rfl | h
        · exact .inr (List.mem_cons_self _ _)
        · exact (ih h).imp_right (List.mem_cons_of_mem _)

theorem map_fst_dictSet (d : List (κ × ν)) (k : κ) (v : ν) :
    (dictSet d k v).map Prod.fst =
      if k ∈ d.map Prod.fst then d.map Prod.fst else d.map Prod.fst ++ [k] := by
  induction d with
  | nil => rfl
  | cons e d ih =>
      obtain ⟨k₀, v₀⟩ := e
      by_cases h : k₀ = k
      · simp [dictSet, h]
      · simp only [dictSet, h, if_false, List.map_cons, ih, List.mem_cons, Ne.symm h, false_or]
        split <;> rfl

theorem dictSet_of_not_mem {d : List (κ × ν)} {k : κ} (h : k ∉ d.map Prod.fst) (v : ν) :
    dictSet d k v = d ++ [(k, v)] := by
  induction d with
  | nil => rfl
  | cons e d ih =>
      obtain ⟨k₀, v₀⟩ := e
      have hk : k₀ ≠ k := fun hk ↦ h (hk ▸ List.mem_cons_self _ _)
      simp only [dictSet, hk, if_false, List.cons_append,
        ih fun hd ↦ h (List.mem_cons_of_mem _ hd)]

theorem dictGet_foldl_dictModify {α : Type} (key : α → κ) (dflt : ν) (upd : ν → α → ν) (k : κ) :
    ∀ (l : List α) (d : List (κ × ν)),
      dictGet (l.foldl (fun d a ↦ dictModify d (key a) dflt fun v ↦ upd v a) d) k =
        if l.any (key · = k) then some ((l.filter (key · = k)).foldl upd ((dictGet d k).getD dflt))
        else dictGet d k
  | [], d => rfl
  | a :: l, d => by
      rw [List.foldl_cons, dictGet_foldl_dictModify key dflt upd k l]
      by_cases ha : key a = k
      · by_cases hl : l.any (key · = k)
        · simp_all [dictModify, List.filter_cons]
        · have hnil : l.filter (key · = k) = [] := List.filter_eq_nil_iff.mpr (by simpa using hl)
          simp [dictModify, List.filter_cons, ha, hl, hnil]
      · simp [dictModify, ha, List.filter_cons]

open List in
theorem flatMap_dictSet_perm {β : Type} (g : ν → List β) (k : κ) (v : ν) :
    ∀ d : List (κ × ν), ((dictSet d k v).flatMap fun e ↦ g e.2) ++ ((dictGet d k).map g).getD [] ~
      (d.flatMap fun e ↦ g e.2) ++ g v
  | [] => by simp [dictSet]
  | (k', v') :: d => by
      by_cases h : k' = k
      · simp only [dictSet, dictGet_cons, h, if_true, flatMap_cons, Option.map_some',
          Option.getD_some]
        rw [append_assoc]
        exact perm_append_comm.trans (perm_append_comm.append_right _)
      · simp only [dictSet, dictGet_cons, h, if_false, flatMap_cons, append_assoc]
        exact (flatMap_dictSet_perm g k v d).append_left _

theorem dictGet_eq_some_iff {k : κ} {v : ν} :
    ∀ {d : List (κ × ν)}, (d.map Prod.fst).Nodup → (dictGet d k = some v ↔ (k, v) ∈ d)
  | [], _ => by simp
  | (k', v') :: d, hnd => by
      have hk' : k' ∉ d.map Prod.fst := (List.nodup_cons.mp hnd).1
      rw [dictGet_cons, List.mem_cons]
      by_cases h : k' = k
      · subst h
        have hnot : (k', v) ∉ d := fun hm ↦ hk' (List.mem_map_of_mem Prod.fst hm)
        simp [hnot, eq_comm]
      · rw [if_neg h, dictGet_eq_some_iff (List.nodup_cons.mp hnd).2]
        simp [Ne.symm h]

theorem dictGet_eq_of_perm {d₁ d₂ : List (κ × ν)} (h : d₁.Perm d₂) (hnd : (d₁.map Prod.fst).Nodup)
    (k : κ) : dictGet d₁ k = dictGet d₂ k :=
  Option.ext fun v ↦ by
    show dictGet d₁ k = some v ↔ dictGet d₂ k = some v
    rw [dictGet_eq_some_iff hnd, dictGet_eq_some_iff ((h.map Prod.fst).nodup_iff.mp hnd), h.mem_iff]

theorem dictGet_map_pair (f : κ → ν) (k : κ) :
    ∀ l : List κ, dictGet (l.map fun k ↦ (k, f k)) k = if k ∈ l then some (f k) else none
  | [] => rfl
  | a :: l => by
      rw [List.map_cons, dictGet_cons, dictGet_map_pair f k l]
      by_cases h : a = k
      · simp [h]
      · simp [h, Ne.symm h]

theorem dictGet_map_snd {μ : Type} (f : ν → μ) (k : κ) :
    ∀ d : List (κ × ν), dictGet (d.map fun e ↦ (e.1, f e.2)) k = (dictGet d k).map f
  | [] => rfl
  | (k', v) :: d => by
      simp only [List.map_cons, dictGet_cons]
      split
      · rfl
      · exact dictGet_map_snd f k d

theorem foldl_snoc {α : Type} : ∀ l acc : List α, l.foldl (fun b c ↦ b ++ [c]) acc = acc ++ l
  | [], acc => (List.append_nil acc).symm
  | a :: l, acc => by rw [List.foldl_cons, foldl_snoc l, List.append_assoc, List.singleton_append]

theorem foldl_flatMap {α β γ : Type} (f : β → α → β) (g : γ → List α) :
    ∀ (l : List γ) (b : β), (l.flatMap g).foldl f b = l.foldl (fun b c ↦ (g c).foldl f b) b
  | [], _ => rfl
  | c :: l, b => by rw [List.flatMap_cons, List.foldl_append, List.foldl_cons, foldl_flatMap f g l]

theorem foldl_filterMap {α β γ : Type} (f : β → α → β) (g : γ → Option α) :
    ∀ (l : List γ) (b : β), (l.filterMap g).foldl f b = l.foldl (fun b c ↦ ((g c).map (f b)).getD b) b
  | [], _ => rfl
  | c :: l, b => by
      cases h : g c <;> simp [List.filterMap_cons, h, foldl_filterMap f g l]

theorem foldl_filter {α β : Type} (p : α → Prop) [DecidablePred p] (f : β → α → β) :
    ∀ (l : List α) (b : β), (l.filter p).foldl f b = l.foldl (fun b a ↦ if p a then f b a else b) b
  | [], _ => rfl
  | a :: l, b => by
      by_cases h : p a <;> simp [List.filter_cons, h, foldl_filter p f l]

theorem foldl_setAdd {α : Type} [DecidableEq α] : ∀ (l v : List α), v.Nodup →
    (l.foldl (fun v x ↦ if x ∈ v then v else v ++ [x]) v).Nodup ∧
      ∀ x, x ∈ l.foldl (fun v x ↦ if x ∈ v then v else v ++ [x]) v ↔ x ∈ v ∨ x ∈ l
  | [], v, h => ⟨h, by simp⟩
  | a :: l, v, h => by
      rw [List.foldl_cons]
      split_ifs with ha
      · obtain ⟨h₁, h₂⟩ := foldl_setAdd l v h
        refine ⟨h₁, fun x ↦ ?_⟩
        rw [h₂, List.mem_cons]
        constructor
        · rintro (hx | hx)
          exacts [.inl hx, .inr (.inr hx)]
        · rintro (hx | rfl | hx)
          exacts [.inl hx, .inl ha, .inr hx]
      · obtain ⟨h₁, h₂⟩ := foldl_setAdd l (v ++ [a]) (List.nodup_append.mpr
          ⟨h, List.nodup_singleton a, List.disjoint_singleton.mpr ha⟩)
        exact ⟨h₁, fun x ↦ by rw [h₂]; simp [or_assoc]⟩

theorem flatMap_filter_of_nil {α β : Type} {p : α → Bool} {f : α → List β} :
    ∀ {l : List α}, (∀ a ∈ l, p a = false → f a = []) → l.flatMap f = (l.filter p).flatMap f
  | [], _ => rfl
  | a :: l, h => by
      have ih := flatMap_filter_of_nil fun b hb ↦ h b (List.mem_cons_of_mem a hb)
      cases ha : p a
      · simp [List.filter_cons, ha, h a (List.mem_cons_self a l) ha, ih]
      · simp [List.filter_cons, ha, ih]

theorem filter_filterMap_enumFrom {α β : Type} {f : ℕ × α → Option β} {P : β → Bool} {i : ℕ}
    (hf : ∀ j x b, f (j, x) = some b → (P b ↔ j = i)) :
    ∀ (l : List α) (n : ℕ), ((l.enumFrom n).filterMap f).filter P =
      if n ≤ i then ((l[i - n]?).bind fun x ↦ f (i, x)).toList else []
  | [], n => by split_ifs <;> simp
  | x :: l, n => by
      have ih := filter_filterMap_enumFrom hf l (n + 1)
      have hne (h : n ≠ i) : ∀ b, f (n, x) = some b → P b = false := fun b hb ↦
        Bool.eq_false_iff.mpr fun hp ↦ h ((hf n x b hb).mp hp)
      rw [List.enumFrom_cons]
      rcases Nat.lt_trichotomy n i with h | rfl | h
      · obtain ⟨k, rfl⟩ := Nat.exists_eq_add_of_lt h
        cases hfx : f (n, x) <;> simp [hfx, ih, hne (by omega), show n ≤ n + k + 1 by omega,
          show n + k + 1 - n = k + 1 by omega]
      · cases hfx : f (n, x) <;> simp [hfx, ih, (hf n x _ ·)]
      · cases hfx : f (n, x) <;> simp [hfx, ih, hne (by omega), show ¬n ≤ i by omega,
          show ¬n + 1 ≤ i by omega]

theorem length_filterMap_eq_length_filter {α β : Type} {f : α → Option β} {p : α → Bool} :
    ∀ {l : List α}, (∀ a ∈ l, (f a).isSome = p a) → (l.filterMap f).length = (l.filter p).length
  | [], _ => rfl
  | a :: l, h => by
      have ha := h a (List.mem_cons_self a l)
      have ih := length_filterMap_eq_length_filter fun b hb ↦ h b (List.mem_cons_of_mem a hb)
      cases hfa : f a <;> rw [hfa] at ha <;> simp [List.filterMap_cons, List.filter_cons, hfa, ← ha, ih]

theorem keys_nodup_dictSet {d : List (κ × ν)} (h : (d.map Prod.fst).Nodup) (k : κ) (v : ν) :
    ((dictSet d k v).map Prod.fst).Nodup := by
  rw [map_fst_dictSet]
  split
  · exact h
  · next hk => exact List.nodup_append.mpr ⟨h, List.nodup_singleton _, List.disjoint_singleton.mpr hk⟩

theorem keys_nodup_foldl_dictModify {α : Type} (key : α → κ) (dflt : ν) (upd : ν → α → ν) :
    ∀ (l : List α) {d : List (κ × ν)}, (d.map Prod.fst).Nodup →
      ((l.foldl (fun d a ↦ dictModify d (key a) dflt fun v ↦ upd v a) d).map Prod.fst).Nodup
  | [], _, h => h
  | _ :: l, _, h => keys_nodup_foldl_dictModify key dflt upd l (keys_nodup_dictSet h _ _)

theorem keys_nodup_foldl_dictSet {α : Type} (key : α → κ) (val : α → ν) :
    ∀ (l : List α) {d : List (κ × ν)}, (d.map Prod.fst).Nodup →
      ((l.foldl (fun d a ↦ dictSet d (key a) (val a)) d).map Prod.fst).Nodup
  | [], _, h => h
  | _ :: l, _, h => keys_nodup_foldl_dictSet key val l (keys_nodup_dictSet h _ _)

theorem length_dictSet (d : List (κ × ν)) (k : κ) (v : ν) :
    (dictSet d k v).length = if k ∈ d.map Prod.fst then d.length else d.length + 1 := by
  rw [← List.length_map _ Prod.fst, map_fst_dictSet]
  split <;> simp

theorem length_foldl_dictSet_le {α : Type} (key : α → κ) (val : α → ν) :
    ∀ (l : List α) (d : List (κ × ν)),
      (l.foldl (fun d a ↦ dictSet d (key a) (val a)) d).length ≤ d.length + l.length
  | [], _ => le_refl _
  | a :: l, d => by
      have h := length_foldl_dictSet_le key val l (dictSet d (key a) (val a))
      rw [length_dictSet] at h
      rw [List.foldl_cons, List.length_cons]
      split at h <;> omega

theorem length_foldl_dictSet_eq_iff {α : Type} (key : α → κ) (val : α → ν) :
    ∀ (l : List α) {d : List (κ × ν)}, (d.map Prod.fst).Nodup →
      ((l.foldl (fun d a ↦ dictSet d (key a) (val a)) d).length = d.length + l.length ↔
        (d.map Prod.fst ++ l.map key).Nodup)
  | [], _, h => by simpa using h
  | a :: l, d, h => by
      have hle := length_foldl_dictSet_le key val l (dictSet d (key a) (val a))
      rw [List.foldl_cons, List.length_cons, List.map_cons]
      by_cases hk : key a ∈ d.map Prod.fst
      · rw [length_dictSet, if_pos hk] at hle
        refine iff_of_false (by omega) fun hnd ↦ ?_
        exact List.disjoint_of_nodup_append hnd hk (List.mem_cons_self _ _)
      · have ih := length_foldl_dictSet_eq_iff key val l (keys_nodup_dictSet h (key a) (val a))
        rw [length_dictSet, if_neg hk, map_fst_dictSet, if_neg hk, List.append_assoc,
          List.singleton_append] at ih
        rw [← ih]
        omega

/-- A loop of `d[key(a)] = val(a)` leaves each key at the value of its last
item. -/
theorem dictGet_foldl_dictSet {α : Type} (key : α → κ) (val : α → ν) (k : κ) :
    ∀ (l : List α) (d : List (κ × ν)),
      dictGet (l.foldl (fun d a ↦ dictSet d (key a) (val a)) d) k =
        (((l.filter (key · = k)).getLast?).map val).or (dictGet d k)
  | [], d => rfl
  | a :: l, d => by
      rw [List.foldl_cons, dictGet_foldl_dictSet key val k l, dictGet_dictSet]
      by_cases ha : key a = k
      · cases h : (l.filter (key · = k)).getLast? <;> simp [List.filter_cons, ha, List.getLast?_cons, h]
      · simp [List.filter_cons, ha]
theorem dictGet_groupPairs {β : Type} (l : List (κ × β)) (k : κ) :
    dictGet (l.foldl (fun d p ↦ dictModify d p.1 [] (· ++ [p.2])) []) k =
      if l.any (·.1 = k) then some ((l.filter (·.1 = k)).map Prod.snd) else none := by
  rw [dictGet_foldl_dictModify Prod.fst [] (fun v p ↦ v ++ [p.2]) k l []]
  split
  · rw [dictGet_nil, Option.getD_none]
    simpa only [List.foldl_map, List.nil_append] using
      congrArg some (foldl_snoc ((l.filter (·.1 = k)).map Prod.snd) [])
  · rfl

theorem mem_groupPairs {β : Type} (l : List (κ × β)) (k : κ) (v : List β) :
    (k, v) ∈ l.foldl (fun d p ↦ dictModify d p.1 [] (· ++ [p.2])) [] ↔
      l.any (·.1 = k) ∧ (l.filter (·.1 = k)).map Prod.snd = v := by
  rw [← dictGet_eq_some_iff (@keys_nodup_foldl_dictModify _ _ _ _ Prod.fst [] (fun v p ↦ v ++ [p.2])
    l [] List.nodup_nil), dictGet_groupPairs]
  split <;> simp_all

theorem keys_groupPairs_perm {β : Type} (l : List (κ × β)) :
    ((l.foldl (fun d p ↦ dictModify d p.1 [] (· ++ [p.2])) []).map Prod.fst).Perm (l.map Prod.fst).dedup := by
  refine (List.perm_ext_iff_of_nodup (@keys_nodup_foldl_dictModify _ _ _ _ Prod.fst []
    (fun v p ↦ v ++ [p.2]) l [] List.nodup_nil) (List.nodup_dedup _)).mpr fun k ↦ ?_
  rw [List.mem_dedup]
  constructor
  · intro hk
    obtain ⟨⟨k, v⟩, hkv, rfl⟩ := List.mem_map.mp hk
    obtain ⟨p, hp, hpk⟩ := List.any_eq_true.mp ((mem_groupPairs l k v).mp hkv).1
    exact List.mem_map.mpr ⟨p, hp, of_decide_eq_true hpk⟩
  · intro hk
    obtain ⟨p, hp, rfl⟩ := List.mem_map.mp hk
    exact List.mem_map.mpr ⟨_, (mem_groupPairs l _ _).mpr ⟨List.any_eq_true.mpr ⟨p, hp, by simp⟩, rfl⟩, rfl⟩

/-- `d[key(a)] = d.get(key(a), []) + [a]` for every item, in order: each key
holds its items. -/
theorem dictGet_groupBy {α : Type} (key : α → κ) (l : List α) (k : κ) :
    dictGet (l.foldl (fun d a ↦ dictModify d (key a) [] (· ++ [a])) []) k =
      if l.any (key · = k) then some (l.filter (key · = k)) else none := by
  rw [dictGet_foldl_dictModify key [] (fun v a ↦ v ++ [a]) k l []]
  split
  · rw [dictGet_nil, Option.getD_none, foldl_snoc, List.nil_append]
  · rfl

theorem dictGet_groupBy_perm {α : Type} (key : α → κ) {l₁ l₂ : List α} (h : l₁.Perm l₂) (k : κ) :
    Option.Rel List.Perm (dictGet (l₁.foldl (fun d a ↦ dictModify d (key a) [] (· ++ [a])) []) k)
      (dictGet (l₂.foldl (fun d a ↦ dictModify d (key a) [] (· ++ [a])) []) k) := by
  rw [dictGet_groupBy, dictGet_groupBy, any_eq_of_perm h]
  split
  · exact .some (h.filter _)
  · exact .none

theorem sum_length_dictSet {β : Type} (d : List (κ × List β)) (k : κ) (v : List β) :
    ((dictSet d k v).map (·.2.length)).sum + ((dictGet d k).getD []).length =
      (d.map (·.2.length)).sum + v.length := by
  induction d with
  | nil => simp [dictSet]
  | cons e d ih =>
      obtain ⟨k', v'⟩ := e
      by_cases h : k' = k
      · simp only [dictSet, dictGet_cons, h, if_true, List.map_cons, List.sum_cons, Option.getD_some]
        omega
      · simp only [dictSet, dictGet_cons, h, if_false, List.map_cons, List.sum_cons]
        omega

theorem sum_length_groupBy {α : Type} (key : α → κ) :
    ∀ (l : List α) (d : List (κ × List α)),
      ((l.foldl (fun d a ↦ dictModify d (key a) [] (· ++ [a])) d).map (·.2.length)).sum =
        (d.map (·.2.length)).sum + l.length
  | [], _ => rfl
  | a :: l, d => by
      have h := sum_length_dictSet d (key a) ((dictGet d (key a)).getD [] ++ [a])
      rw [List.length_append, List.length_singleton] at h
      rw [List.foldl_cons, sum_length_groupBy key l, dictModify, List.length_cons]
      omega

end Dict

/-! ## `dict(sorted(d.items()))` -/

section SortedItems

variable {β : Type}

/-- `a <= b` on two items of a dict with string keys: the keys decide, as
Python compares tuples. -/
def itemBefore (a b : String × β) : Bool := ltChars a.1.data b.1.data || a.1 = b.1

/-- `dict(sorted(d.items()))`; the keys of a dict are distinct, so no two values
are ever compared. -/
def sortItems (d : List (String × β)) : List (String × β) :=
  d.insertionSort fun a b ↦ itemBefore a b

theorem itemBefore_total (a b : String × β) : itemBefore a b ∨ itemBefore b a := by
  unfold itemBefore
  by_cases h : a.1 = b.1
  · simp [h]
  · rcases ltChars_total fun hd ↦ h (String.ext hd) with hlt | hlt <;> simp [hlt]

theorem itemBefore_trans {a b c : String × β} (hab : itemBefore a b) (hbc : itemBefore b c) :
    itemBefore a c := by
  simp only [itemBefore, Bool.or_eq_true, decide_eq_true_eq] at *
  rcases hab with hab | hab <;> rcases hbc with hbc | hbc
  · exact .inl (ltChars_trans hab hbc)
  · exact .inl (hbc ▸ hab)
  · exact .inl (hab ▸ hbc)
  · exact .inr (hab.trans hbc)

theorem sortItems_perm (d : List (String × β)) : (sortItems d).Perm d := List.perm_insertionSort _ d

/-- Sorting the items of a dict orders its keys strictly, in Python's order on
strings, and keeps every lookup. -/
theorem sortItems_spec {d : List (String × β)} (hnd : (d.map Prod.fst).Nodup) :
    ((sortItems d).map Prod.fst).Pairwise (fun a b ↦ ltChars a.data b.data) ∧
      ∀ k, dictGet (sortItems d) k = dictGet d k := by
  haveI : IsTotal (String × β) fun a b ↦ itemBefore a b := ⟨itemBefore_total⟩
  haveI : IsTrans (String × β) fun a b ↦ itemBefore a b := ⟨fun _ _ _ ↦ itemBefore_trans⟩
  have hperm := sortItems_perm d
  have hnd' : ((sortItems d).map Prod.fst).Nodup := (hperm.map Prod.fst).nodup_iff.mpr hnd
  refine ⟨List.pairwise_map.mpr (((List.sorted_insertionSort _ d).and
    (List.pairwise_map.mp hnd')).imp fun ⟨hab, hne⟩ ↦ ?_), dictGet_eq_of_perm hperm hnd'⟩
  simpa [itemBefore, hne] using hab

end SortedItems

end Caliber.Py
