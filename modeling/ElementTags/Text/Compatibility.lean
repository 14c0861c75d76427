/-!
# Compatible characters

Ligatures, wide and narrow forms, letters in other styles and the like stand for plain characters.
The tables cover the characters of names, apart from the ideographs that are kept for compatibility.
-/

namespace ElementTags.Text

/-- The first and the last of some characters that stand for one plain character each, and the plain
character of the first; the others follow in order. -/
def plainForms : Array (Nat × Nat × Nat) := #[
  (0x00AA, 0x00AA, 0x0061), (0x00B5, 0x00B5, 0x03BC), (0x00BA, 0x00BA, 0x006F),
  (0x017F, 0x017F, 0x0073), (0x02B0, 0x02B0, 0x0068), (0x02B1, 0x02B1, 0x0266),
  (0x02B2, 0x02B2, 0x006A), (0x02B3, 0x02B3, 0x0072), (0x02B4, 0x02B4, 0x0279),
  (0x02B5, 0x02B5, 0x027B), (0x02B6, 0x02B6, 0x0281), (0x02B7, 0x02B7, 0x0077),
  (0x02B8, 0x02B8, 0x0079), (0x02E0, 0x02E0, 0x0263), (0x02E1, 0x02E1, 0x006C),
  (0x02E2, 0x02E2, 0x0073), (0x02E3, 0x02E3, 0x0078), (0x02E4, 0x02E4, 0x0295),
  (0x0340, 0x0341, 0x0300), (0x0343, 0x0343, 0x0313), (0x0374, 0x0374, 0x02B9),
  (0x0387, 0x0387, 0x00B7), (0x03D0, 0x03D0, 0x03B2), (0x03D1, 0x03D1, 0x03B8),
  (0x03D2, 0x03D2, 0x03A5), (0x03D5, 0x03D5, 0x03C6), (0x03D6, 0x03D6, 0x03C0),
  (0x03F0, 0x03F0, 0x03BA), (0x03F1, 0x03F2, 0x03C1), (0x03F4, 0x03F4, 0x0398),
  (0x03F5, 0x03F5, 0x03B5), (0x03F9, 0x03F9, 0x03A3), (0x10FC, 0x10FC, 0x10DC),
  (0x1D2C, 0x1D2C, 0x0041), (0x1D2D, 0x1D2D, 0x00C6), (0x1D2E, 0x1D2E, 0x0042),
  (0x1D30, 0x1D31, 0x0044), (0x1D32, 0x1D32, 0x018E), (0x1D33, 0x1D3A, 0x0047),
  (0x1D3C, 0x1D3C, 0x004F), (0x1D3D, 0x1D3D, 0x0222), (0x1D3E, 0x1D3E, 0x0050),
  (0x1D3F, 0x1D3F, 0x0052), (0x1D40, 0x1D41, 0x0054), (0x1D42, 0x1D42, 0x0057),
  (0x1D43, 0x1D43, 0x0061), (0x1D44, 0x1D45, 0x0250), (0x1D46, 0x1D46, 0x1D02),
  (0x1D47, 0x1D47, 0x0062), (0x1D48, 0x1D49, 0x0064), (0x1D4A, 0x1D4A, 0x0259),
  (0x1D4B, 0x1D4C, 0x025B), (0x1D4D, 0x1D4D, 0x0067), (0x1D4F, 0x1D4F, 0x006B),
  (0x1D50, 0x1D50, 0x006D), (0x1D51, 0x1D51, 0x014B), (0x1D52, 0x1D52, 0x006F),
  (0x1D53, 0x1D53, 0x0254), (0x1D54, 0x1D55, 0x1D16), (0x1D56, 0x1D56, 0x0070),
  (0x1D57, 0x1D58, 0x0074), (0x1D59, 0x1D59, 0x1D1D), (0x1D5A, 0x1D5A, 0x026F),
  (0x1D5B, 0x1D5B, 0x0076), (0x1D5C, 0x1D5C, 0x1D25), (0x1D5D, 0x1D5F, 0x03B2),
  (0x1D60, 0x1D61, 0x03C6), (0x1D62, 0x1D62, 0x0069), (0x1D63, 0x1D63, 0x0072),
  (0x1D64, 0x1D65, 0x0075), (0x1D66, 0x1D67, 0x03B2), (0x1D68, 0x1D68, 0x03C1),
  (0x1D69, 0x1D6A, 0x03C6), (0x1D78, 0x1D78, 0x043D), (0x1D9B, 0x1D9B, 0x0252),
  (0x1D9C, 0x1D9C, 0x0063), (0x1D9D, 0x1D9D, 0x0255), (0x1D9E, 0x1D9E, 0x00F0),
  (0x1D9F, 0x1D9F, 0x025C), (0x1DA0, 0x1DA0, 0x0066), (0x1DA1, 0x1DA1, 0x025F),
  (0x1DA2, 0x1DA2, 0x0261), (0x1DA3, 0x1DA3, 0x0265), (0x1DA4, 0x1DA6, 0x0268),
  (0x1DA7, 0x1DA7, 0x1D7B), (0x1DA8, 0x1DA8, 0x029D), (0x1DA9, 0x1DA9, 0x026D),
  (0x1DAA, 0x1DAA, 0x1D85), (0x1DAB, 0x1DAB, 0x029F), (0x1DAC, 0x1DAC, 0x0271),
  (0x1DAD, 0x1DAD, 0x0270), (0x1DAE, 0x1DB1, 0x0272), (0x1DB2, 0x1DB2, 0x0278),
  (0x1DB3, 0x1DB4, 0x0282), (0x1DB5, 0x1DB5, 0x01AB), (0x1DB6, 0x1DB7, 0x0289),
  (0x1DB8, 0x1DB8, 0x1D1C), (0x1DB9, 0x1DBA, 0x028B), (0x1DBB, 0x1DBB, 0x007A),
  (0x1DBC, 0x1DBE, 0x0290), (0x1DBF, 0x1DBF, 0x03B8), (0x1FBE, 0x1FBE, 0x03B9),
  (0x2071, 0x2071, 0x0069), (0x207F, 0x207F, 0x006E), (0x2090, 0x2090, 0x0061),
  (0x2091, 0x2091, 0x0065), (0x2092, 0x2092, 0x006F), (0x2093, 0x2093, 0x0078),
  (0x2094, 0x2094, 0x0259), (0x2095, 0x2095, 0x0068), (0x2096, 0x2099, 0x006B),
  (0x209A, 0x209A, 0x0070), (0x209B, 0x209C, 0x0073), (0x2102, 0x2102, 0x0043),
  (0x2107, 0x2107, 0x0190), (0x210A, 0x210A, 0x0067), (0x210B, 0x210B, 0x0048),
  (0x210C, 0x210C, 0x0048), (0x210D, 0x210D, 0x0048), (0x210E, 0x210E, 0x0068),
  (0x210F, 0x210F, 0x0127), (0x2110, 0x2110, 0x0049), (0x2111, 0x2111, 0x0049),
  (0x2112, 0x2112, 0x004C), (0x2113, 0x2113, 0x006C), (0x2115, 0x2115, 0x004E),
  (0x2119, 0x211B, 0x0050), (0x211C, 0x211C, 0x0052), (0x211D, 0x211D, 0x0052),
  (0x2124, 0x2124, 0x005A), (0x2126, 0x2126, 0x03A9), (0x2128, 0x2128, 0x005A),
  (0x212A, 0x212A, 0x004B), (0x212C, 0x212D, 0x0042), (0x212F, 0x212F, 0x0065),
  (0x2130, 0x2131, 0x0045), (0x2133, 0x2133, 0x004D), (0x2134, 0x2134, 0x006F),
  (0x2135, 0x2138, 0x05D0), (0x2139, 0x2139, 0x0069), (0x213C, 0x213C, 0x03C0),
  (0x213D, 0x213D, 0x03B3), (0x213E, 0x213E, 0x0393), (0x213F, 0x213F, 0x03A0),
  (0x2145, 0x2145, 0x0044), (0x2146, 0x2147, 0x0064), (0x2148, 0x2149, 0x0069),
  (0x2160, 0x2160, 0x0049), (0x2164, 0x2164, 0x0056), (0x2169, 0x2169, 0x0058),
  (0x216C, 0x216C, 0x004C), (0x216D, 0x216E, 0x0043), (0x216F, 0x216F, 0x004D),
  (0x2170, 0x2170, 0x0069), (0x2174, 0x2174, 0x0076), (0x2179, 0x2179, 0x0078),
  (0x217C, 0x217C, 0x006C), (0x217D, 0x217E, 0x0063), (0x217F, 0x217F, 0x006D),
  (0x2C7C, 0x2C7C, 0x006A), (0x2C7D, 0x2C7D, 0x0056), (0x2D6F, 0x2D6F, 0x2D61),
  (0x3038, 0x3038, 0x5341), (0x3039, 0x303A, 0x5344), (0x3131, 0x3132, 0x1100),
  (0x3133, 0x3133, 0x11AA), (0x3134, 0x3134, 0x1102), (0x3135, 0x3136, 0x11AC),
  (0x3137, 0x3139, 0x1103), (0x313A, 0x313F, 0x11B0), (0x3140, 0x3140, 0x111A),
  (0x3141, 0x3143, 0x1106), (0x3144, 0x3144, 0x1121), (0x3145, 0x314E, 0x1109),
  (0x314F, 0x3163, 0x1161), (0x3164, 0x3164, 0x1160), (0x3165, 0x3166, 0x1114),
  (0x3167, 0x3168, 0x11C7), (0x3169, 0x3169, 0x11CC), (0x316A, 0x316A, 0x11CE),
  (0x316B, 0x316B, 0x11D3), (0x316C, 0x316C, 0x11D7), (0x316D, 0x316D, 0x11D9),
  (0x316E, 0x316E, 0x111C), (0x316F, 0x316F, 0x11DD), (0x3170, 0x3170, 0x11DF),
  (0x3171, 0x3172, 0x111D), (0x3173, 0x3173, 0x1120), (0x3174, 0x3175, 0x1122),
  (0x3176, 0x3176, 0x1127), (0x3177, 0x3177, 0x1129), (0x3178, 0x317C, 0x112B),
  (0x317D, 0x317D, 0x1132), (0x317E, 0x317E, 0x1136), (0x317F, 0x317F, 0x1140),
  (0x3180, 0x3180, 0x1147), (0x3181, 0x3181, 0x114C), (0x3182, 0x3183, 0x11F1),
  (0x3184, 0x3186, 0x1157), (0x3187, 0x3188, 0x1184), (0x3189, 0x3189, 0x1188),
  (0x318A, 0x318B, 0x1191), (0x318C, 0x318C, 0x1194), (0x318D, 0x318D, 0x119E),
  (0x318E, 0x318E, 0x11A1), (0xA69C, 0xA69C, 0x044A), (0xA69D, 0xA69D, 0x044C),
  (0xA770, 0xA770, 0xA76F), (0xA7F2, 0xA7F2, 0x0043), (0xA7F3, 0xA7F3, 0x0046),
  (0xA7F4, 0xA7F4, 0x0051), (0xA7F8, 0xA7F8, 0x0126), (0xA7F9, 0xA7F9, 0x0153),
  (0xAB5C, 0xAB5C, 0xA727), (0xAB5D, 0xAB5D, 0xAB37), (0xAB5E, 0xAB5E, 0x026B),
  (0xAB5F, 0xAB5F, 0xAB52), (0xAB69, 0xAB69, 0x028D), (0xFB20, 0xFB20, 0x05E2),
  (0xFB21, 0xFB21, 0x05D0), (0xFB22, 0xFB23, 0x05D3), (0xFB24, 0xFB26, 0x05DB),
  (0xFB27, 0xFB27, 0x05E8), (0xFB28, 0xFB28, 0x05EA), (0xFB50, 0xFB50, 0x0671),
  (0xFB51, 0xFB51, 0x0671), (0xFB52, 0xFB52, 0x067B), (0xFB53, 0xFB53, 0x067B),
  (0xFB54, 0xFB54, 0x067B), (0xFB55, 0xFB55, 0x067B), (0xFB56, 0xFB56, 0x067E),
  (0xFB57, 0xFB57, 0x067E), (0xFB58, 0xFB58, 0x067E), (0xFB59, 0xFB59, 0x067E),
  (0xFB5A, 0xFB5A, 0x0680), (0xFB5B, 0xFB5B, 0x0680), (0xFB5C, 0xFB5C, 0x0680),
  (0xFB5D, 0xFB5D, 0x0680), (0xFB5E, 0xFB5E, 0x067A), (0xFB5F, 0xFB5F, 0x067A),
  (0xFB60, 0xFB60, 0x067A), (0xFB61, 0xFB61, 0x067A), (0xFB62, 0xFB62, 0x067F),
  (0xFB63, 0xFB63, 0x067F), (0xFB64, 0xFB64, 0x067F), (0xFB65, 0xFB65, 0x067F),
  (0xFB66, 0xFB66, 0x0679), (0xFB67, 0xFB67, 0x0679), (0xFB68, 0xFB68, 0x0679),
  (0xFB69, 0xFB69, 0x0679), (0xFB6A, 0xFB6A, 0x06A4), (0xFB6B, 0xFB6B, 0x06A4),
  (0xFB6C, 0xFB6C, 0x06A4), (0xFB6D, 0xFB6D, 0x06A4), (0xFB6E, 0xFB6E, 0x06A6),
  (0xFB6F, 0xFB6F, 0x06A6), (0xFB70, 0xFB70, 0x06A6), (0xFB71, 0xFB71, 0x06A6),
  (0xFB72, 0xFB72, 0x0684), (0xFB73, 0xFB73, 0x0684), (0xFB74, 0xFB74, 0x0684),
  (0xFB75, 0xFB75, 0x0684), (0xFB76, 0xFB76, 0x0683), (0xFB77, 0xFB77, 0x0683),
  (0xFB78, 0xFB78, 0x0683), (0xFB79, 0xFB79, 0x0683), (0xFB7A, 0xFB7A, 0x0686),
  (0xFB7B, 0xFB7B, 0x0686), (0xFB7C, 0xFB7C, 0x0686), (0xFB7D, 0xFB7E, 0x0686),
  (0xFB7F, 0xFB7F, 0x0687), (0xFB80, 0xFB80, 0x0687), (0xFB81, 0xFB81, 0x0687),
  (0xFB82, 0xFB82, 0x068D), (0xFB83, 0xFB83, 0x068D), (0xFB84, 0xFB84, 0x068C),
  (0xFB85, 0xFB85, 0x068C), (0xFB86, 0xFB86, 0x068E), (0xFB87, 0xFB87, 0x068E),
  (0xFB88, 0xFB88, 0x0688), (0xFB89, 0xFB89, 0x0688), (0xFB8A, 0xFB8A, 0x0698),
  (0xFB8B, 0xFB8B, 0x0698), (0xFB8C, 0xFB8C, 0x0691), (0xFB8D, 0xFB8D, 0x0691),
  (0xFB8E, 0xFB8E, 0x06A9), (0xFB8F, 0xFB8F, 0x06A9), (0xFB90, 0xFB90, 0x06A9),
  (0xFB91, 0xFB91, 0x06A9), (0xFB92, 0xFB92, 0x06AF), (0xFB93, 0xFB93, 0x06AF),
  (0xFB94, 0xFB94, 0x06AF), (0xFB95, 0xFB95, 0x06AF), (0xFB96, 0xFB96, 0x06B3),
  (0xFB97, 0xFB97, 0x06B3), (0xFB98, 0xFB98, 0x06B3), (0xFB99, 0xFB99, 0x06B3),
  (0xFB9A, 0xFB9A, 0x06B1), (0xFB9B, 0xFB9B, 0x06B1), (0xFB9C, 0xFB9C, 0x06B1),
  (0xFB9D, 0xFB9D, 0x06B1), (0xFB9E, 0xFB9E, 0x06BA), (0xFB9F, 0xFBA0, 0x06BA),
  (0xFBA1, 0xFBA1, 0x06BB), (0xFBA2, 0xFBA2, 0x06BB), (0xFBA3, 0xFBA3, 0x06BB),
  (0xFBA6, 0xFBA6, 0x06C1), (0xFBA7, 0xFBA7, 0x06C1), (0xFBA8, 0xFBA8, 0x06C1),
  (0xFBA9, 0xFBA9, 0x06C1), (0xFBAA, 0xFBAA, 0x06BE), (0xFBAB, 0xFBAB, 0x06BE),
  (0xFBAC, 0xFBAC, 0x06BE), (0xFBAD, 0xFBAD, 0x06BE), (0xFBAE, 0xFBAE, 0x06D2),
  (0xFBAF, 0xFBAF, 0x06D2), (0xFBD3, 0xFBD3, 0x06AD), (0xFBD4, 0xFBD4, 0x06AD),
  (0xFBD5, 0xFBD5, 0x06AD), (0xFBD6, 0xFBD6, 0x06AD), (0xFBD7, 0xFBD7, 0x06C7),
  (0xFBD8, 0xFBD8, 0x06C7), (0xFBD9, 0xFBD9, 0x06C6), (0xFBDA, 0xFBDA, 0x06C6),
  (0xFBDB, 0xFBDB, 0x06C8), (0xFBDC, 0xFBDC, 0x06C8), (0xFBDE, 0xFBDE, 0x06CB),
  (0xFBDF, 0xFBDF, 0x06CB), (0xFBE0, 0xFBE0, 0x06C5), (0xFBE1, 0xFBE1, 0x06C5),
  (0xFBE2, 0xFBE2, 0x06C9), (0xFBE3, 0xFBE3, 0x06C9), (0xFBE4, 0xFBE4, 0x06D0),
  (0xFBE5, 0xFBE5, 0x06D0), (0xFBE6, 0xFBE6, 0x06D0), (0xFBE7, 0xFBE7, 0x06D0),
  (0xFBE8, 0xFBE8, 0x0649), (0xFBE9, 0xFBE9, 0x0649), (0xFBFC, 0xFBFC, 0x06CC),
  (0xFBFD, 0xFBFD, 0x06CC), (0xFBFE, 0xFBFE, 0x06CC), (0xFBFF, 0xFBFF, 0x06CC),
  (0xFE33, 0xFE33, 0x005F), (0xFE34, 0xFE34, 0x005F), (0xFE4D, 0xFE4D, 0x005F),
  (0xFE4E, 0xFE4E, 0x005F), (0xFE4F, 0xFE4F, 0x005F), (0xFE80, 0xFE80, 0x0621),
  (0xFE8D, 0xFE8D, 0x0627), (0xFE8E, 0xFE8F, 0x0627), (0xFE90, 0xFE90, 0x0628),
  (0xFE91, 0xFE91, 0x0628), (0xFE92, 0xFE93, 0x0628), (0xFE94, 0xFE95, 0x0629),
  (0xFE96, 0xFE96, 0x062A), (0xFE97, 0xFE97, 0x062A), (0xFE98, 0xFE99, 0x062A),
  (0xFE9A, 0xFE9A, 0x062B), (0xFE9B, 0xFE9B, 0x062B), (0xFE9C, 0xFE9D, 0x062B),
  (0xFE9E, 0xFE9E, 0x062C), (0xFE9F, 0xFE9F, 0x062C), (0xFEA0, 0xFEA1, 0x062C),
  (0xFEA2, 0xFEA2, 0x062D), (0xFEA3, 0xFEA3, 0x062D), (0xFEA4, 0xFEA5, 0x062D),
  (0xFEA6, 0xFEA6, 0x062E), (0xFEA7, 0xFEA7, 0x062E), (0xFEA8, 0xFEA9, 0x062E),
  (0xFEAA, 0xFEAB, 0x062F), (0xFEAC, 0xFEAD, 0x0630), (0xFEAE, 0xFEAF, 0x0631),
  (0xFEB0, 0xFEB1, 0x0632), (0xFEB2, 0xFEB2, 0x0633), (0xFEB3, 0xFEB3, 0x0633),
  (0xFEB4, 0xFEB5, 0x0633), (0xFEB6, 0xFEB6, 0x0634), (0xFEB7, 0xFEB7, 0x0634),
  (0xFEB8, 0xFEB9, 0x0634), (0xFEBA, 0xFEBA, 0x0635), (0xFEBB, 0xFEBB, 0x0635),
  (0xFEBC, 0xFEBD, 0x0635), (0xFEBE, 0xFEBE, 0x0636), (0xFEBF, 0xFEBF, 0x0636),
  (0xFEC0, 0xFEC1, 0x0636), (0xFEC2, 0xFEC2, 0x0637), (0xFEC3, 0xFEC3, 0x0637),
  (0xFEC4, 0xFEC5, 0x0637), (0xFEC6, 0xFEC6, 0x0638), (0xFEC7, 0xFEC7, 0x0638),
  (0xFEC8, 0xFEC9, 0x0638), (0xFECA, 0xFECA, 0x0639), (0xFECB, 0xFECB, 0x0639),
  (0xFECC, 0xFECD, 0x0639), (0xFECE, 0xFECE, 0x063A), (0xFECF, 0xFECF, 0x063A),
  (0xFED0, 0xFED0, 0x063A), (0xFED1, 0xFED1, 0x0641), (0xFED2, 0xFED2, 0x0641),
  (0xFED3, 0xFED3, 0x0641), (0xFED4, 0xFED5, 0x0641), (0xFED6, 0xFED6, 0x0642),
  (0xFED7, 0xFED7, 0x0642), (0xFED8, 0xFED9, 0x0642), (0xFEDA, 0xFEDA, 0x0643),
  (0xFEDB, 0xFEDB, 0x0643), (0xFEDC, 0xFEDD, 0x0643), (0xFEDE, 0xFEDE, 0x0644),
  (0xFEDF, 0xFEDF, 0x0644), (0xFEE0, 0xFEE1, 0x0644), (0xFEE2, 0xFEE2, 0x0645),
  (0xFEE3, 0xFEE3, 0x0645), (0xFEE4, 0xFEE5, 0x0645), (0xFEE6, 0xFEE6, 0x0646),
  (0xFEE7, 0xFEE7, 0x0646), (0xFEE8, 0xFEE9, 0x0646), (0xFEEA, 0xFEEA, 0x0647),
  (0xFEEB, 0xFEEB, 0x0647), (0xFEEC, 0xFEED, 0x0647), (0xFEEE, 0xFEEF, 0x0648),
  (0xFEF0, 0xFEF1, 0x0649), (0xFEF2, 0xFEF2, 0x064A), (0xFEF3, 0xFEF3, 0x064A),
  (0xFEF4, 0xFEF4, 0x064A), (0xFF10, 0xFF19, 0x0030), (0xFF21, 0xFF3A, 0x0041),
  (0xFF3F, 0xFF3F, 0x005F), (0xFF41, 0xFF5A, 0x0061), (0xFF66, 0xFF66, 0x30F2),
  (0xFF67, 0xFF67, 0x30A1), (0xFF68, 0xFF68, 0x30A3), (0xFF69, 0xFF69, 0x30A5),
  (0xFF6A, 0xFF6A, 0x30A7), (0xFF6B, 0xFF6B, 0x30A9), (0xFF6C, 0xFF6C, 0x30E3),
  (0xFF6D, 0xFF6D, 0x30E5), (0xFF6E, 0xFF6E, 0x30E7), (0xFF6F, 0xFF6F, 0x30C3),
  (0xFF70, 0xFF70, 0x30FC), (0xFF71, 0xFF71, 0x30A2), (0xFF72, 0xFF72, 0x30A4),
  (0xFF73, 0xFF73, 0x30A6), (0xFF74, 0xFF74, 0x30A8), (0xFF75, 0xFF76, 0x30AA),
  (0xFF77, 0xFF77, 0x30AD), (0xFF78, 0xFF78, 0x30AF), (0xFF79, 0xFF79, 0x30B1),
  (0xFF7A, 0xFF7A, 0x30B3), (0xFF7B, 0xFF7B, 0x30B5), (0xFF7C, 0xFF7C, 0x30B7),
  (0xFF7D, 0xFF7D, 0x30B9), (0xFF7E, 0xFF7E, 0x30BB), (0xFF7F, 0xFF7F, 0x30BD),
  (0xFF80, 0xFF80, 0x30BF), (0xFF81, 0xFF81, 0x30C1), (0xFF82, 0xFF82, 0x30C4),
  (0xFF83, 0xFF83, 0x30C6), (0xFF84, 0xFF84, 0x30C8), (0xFF85, 0xFF8A, 0x30CA),
  (0xFF8B, 0xFF8B, 0x30D2), (0xFF8C, 0xFF8C, 0x30D5), (0xFF8D, 0xFF8D, 0x30D8),
  (0xFF8E, 0xFF8E, 0x30DB), (0xFF8F, 0xFF93, 0x30DE), (0xFF94, 0xFF94, 0x30E4),
  (0xFF95, 0xFF95, 0x30E6), (0xFF96, 0xFF9B, 0x30E8), (0xFF9C, 0xFF9C, 0x30EF),
  (0xFF9D, 0xFF9D, 0x30F3), (0xFF9E, 0xFF9F, 0x3099), (0xFFA0, 0xFFA0, 0x1160),
  (0xFFA1, 0xFFA2, 0x1100), (0xFFA3, 0xFFA3, 0x11AA), (0xFFA4, 0xFFA4, 0x1102),
  (0xFFA5, 0xFFA6, 0x11AC), (0xFFA7, 0xFFA9, 0x1103), (0xFFAA, 0xFFAF, 0x11B0),
  (0xFFB0, 0xFFB0, 0x111A), (0xFFB1, 0xFFB3, 0x1106), (0xFFB4, 0xFFB4, 0x1121),
  (0xFFB5, 0xFFBE, 0x1109), (0xFFC2, 0xFFC7, 0x1161), (0xFFCA, 0xFFCF, 0x1167),
  (0xFFD2, 0xFFD7, 0x116D), (0xFFDA, 0xFFDC, 0x1173), (0x10781, 0x10782, 0x02D0),
  (0x10783, 0x10783, 0x00E6), (0x10784, 0x10784, 0x0299), (0x10785, 0x10785, 0x0253),
  (0x10787, 0x10787, 0x02A3), (0x10788, 0x10788, 0xAB66), (0x10789, 0x10789, 0x02A5),
  (0x1078A, 0x1078A, 0x02A4), (0x1078B, 0x1078C, 0x0256), (0x1078D, 0x1078D, 0x1D91),
  (0x1078E, 0x1078E, 0x0258), (0x1078F, 0x1078F, 0x025E), (0x10790, 0x10790, 0x02A9),
  (0x10791, 0x10791, 0x0264), (0x10792, 0x10792, 0x0262), (0x10793, 0x10793, 0x0260),
  (0x10794, 0x10794, 0x029B), (0x10795, 0x10795, 0x0127), (0x10796, 0x10796, 0x029C),
  (0x10797, 0x10797, 0x0267), (0x10798, 0x10798, 0x0284), (0x10799, 0x1079A, 0x02AA),
  (0x1079B, 0x1079B, 0x026C), (0x1079C, 0x1079C, 0x1DF04), (0x1079D, 0x1079D, 0xA78E),
  (0x1079E, 0x1079E, 0x026E), (0x1079F, 0x1079F, 0x1DF05), (0x107A0, 0x107A0, 0x028E),
  (0x107A1, 0x107A1, 0x1DF06), (0x107A2, 0x107A2, 0x00F8), (0x107A3, 0x107A4, 0x0276),
  (0x107A5, 0x107A5, 0x0071), (0x107A6, 0x107A6, 0x027A), (0x107A7, 0x107A7, 0x1DF08),
  (0x107A8, 0x107A9, 0x027D), (0x107AA, 0x107AA, 0x0280), (0x107AB, 0x107AB, 0x02A8),
  (0x107AC, 0x107AC, 0x02A6), (0x107AD, 0x107AD, 0xAB67), (0x107AE, 0x107AE, 0x02A7),
  (0x107AF, 0x107AF, 0x0288), (0x107B0, 0x107B0, 0x2C71), (0x107B2, 0x107B2, 0x028F),
  (0x107B3, 0x107B4, 0x02A1), (0x107B5, 0x107B5, 0x0298), (0x107B6, 0x107B8, 0x01C0),
  (0x107B9, 0x107B9, 0x1DF0A), (0x107BA, 0x107BA, 0x1DF1E), (0x1D400, 0x1D419, 0x0041),
  (0x1D41A, 0x1D433, 0x0061), (0x1D434, 0x1D44D, 0x0041), (0x1D44E, 0x1D454, 0x0061),
  (0x1D456, 0x1D467, 0x0069), (0x1D468, 0x1D481, 0x0041), (0x1D482, 0x1D49B, 0x0061),
  (0x1D49C, 0x1D49C, 0x0041), (0x1D49E, 0x1D49F, 0x0043), (0x1D4A2, 0x1D4A2, 0x0047),
  (0x1D4A5, 0x1D4A6, 0x004A), (0x1D4A9, 0x1D4AC, 0x004E), (0x1D4AE, 0x1D4B5, 0x0053),
  (0x1D4B6, 0x1D4B9, 0x0061), (0x1D4BB, 0x1D4BB, 0x0066), (0x1D4BD, 0x1D4C3, 0x0068),
  (0x1D4C5, 0x1D4CF, 0x0070), (0x1D4D0, 0x1D4E9, 0x0041), (0x1D4EA, 0x1D503, 0x0061),
  (0x1D504, 0x1D505, 0x0041), (0x1D507, 0x1D50A, 0x0044), (0x1D50D, 0x1D514, 0x004A),
  (0x1D516, 0x1D51C, 0x0053), (0x1D51E, 0x1D537, 0x0061), (0x1D538, 0x1D539, 0x0041),
  (0x1D53B, 0x1D53E, 0x0044), (0x1D540, 0x1D544, 0x0049), (0x1D546, 0x1D546, 0x004F),
  (0x1D54A, 0x1D550, 0x0053), (0x1D552, 0x1D56B, 0x0061), (0x1D56C, 0x1D585, 0x0041),
  (0x1D586, 0x1D59F, 0x0061), (0x1D5A0, 0x1D5B9, 0x0041), (0x1D5BA, 0x1D5D3, 0x0061),
  (0x1D5D4, 0x1D5ED, 0x0041), (0x1D5EE, 0x1D607, 0x0061), (0x1D608, 0x1D621, 0x0041),
  (0x1D622, 0x1D63B, 0x0061), (0x1D63C, 0x1D655, 0x0041), (0x1D656, 0x1D66F, 0x0061),
  (0x1D670, 0x1D689, 0x0041), (0x1D68A, 0x1D6A3, 0x0061), (0x1D6A4, 0x1D6A4, 0x0131),
  (0x1D6A5, 0x1D6A5, 0x0237), (0x1D6A8, 0x1D6B8, 0x0391), (0x1D6B9, 0x1D6B9, 0x0398),
  (0x1D6BA, 0x1D6C0, 0x03A3), (0x1D6C2, 0x1D6DA, 0x03B1), (0x1D6DC, 0x1D6DC, 0x03B5),
  (0x1D6DD, 0x1D6DD, 0x03B8), (0x1D6DE, 0x1D6DE, 0x03BA), (0x1D6DF, 0x1D6DF, 0x03C6),
  (0x1D6E0, 0x1D6E0, 0x03C1), (0x1D6E1, 0x1D6E1, 0x03C0), (0x1D6E2, 0x1D6F2, 0x0391),
  (0x1D6F3, 0x1D6F3, 0x0398), (0x1D6F4, 0x1D6FA, 0x03A3), (0x1D6FC, 0x1D714, 0x03B1),
  (0x1D716, 0x1D716, 0x03B5), (0x1D717, 0x1D717, 0x03B8), (0x1D718, 0x1D718, 0x03BA),
  (0x1D719, 0x1D719, 0x03C6), (0x1D71A, 0x1D71A, 0x03C1), (0x1D71B, 0x1D71B, 0x03C0),
  (0x1D71C, 0x1D72C, 0x0391), (0x1D72D, 0x1D72D, 0x0398), (0x1D72E, 0x1D734, 0x03A3),
  (0x1D736, 0x1D74E, 0x03B1), (0x1D750, 0x1D750, 0x03B5), (0x1D751, 0x1D751, 0x03B8),
  (0x1D752, 0x1D752, 0x03BA), (0x1D753, 0x1D753, 0x03C6), (0x1D754, 0x1D754, 0x03C1),
  (0x1D755, 0x1D755, 0x03C0), (0x1D756, 0x1D766, 0x0391), (0x1D767, 0x1D767, 0x0398),
  (0x1D768, 0x1D76E, 0x03A3), (0x1D770, 0x1D788, 0x03B1), (0x1D78A, 0x1D78A, 0x03B5),
  (0x1D78B, 0x1D78B, 0x03B8), (0x1D78C, 0x1D78C, 0x03BA), (0x1D78D, 0x1D78D, 0x03C6),
  (0x1D78E, 0x1D78E, 0x03C1), (0x1D78F, 0x1D78F, 0x03C0), (0x1D790, 0x1D7A0, 0x0391),
  (0x1D7A1, 0x1D7A1, 0x0398), (0x1D7A2, 0x1D7A8, 0x03A3), (0x1D7AA, 0x1D7C2, 0x03B1),
  (0x1D7C4, 0x1D7C4, 0x03B5), (0x1D7C5, 0x1D7C5, 0x03B8), (0x1D7C6, 0x1D7C6, 0x03BA),
  (0x1D7C7, 0x1D7C7, 0x03C6), (0x1D7C8, 0x1D7C8, 0x03C1), (0x1D7C9, 0x1D7C9, 0x03C0),
  (0x1D7CA, 0x1D7CB, 0x03DC), (0x1D7CE, 0x1D7D7, 0x0030), (0x1D7D8, 0x1D7E1, 0x0030),
  (0x1D7E2, 0x1D7EB, 0x0030), (0x1D7EC, 0x1D7F5, 0x0030), (0x1D7F6, 0x1D7FF, 0x0030),
  (0x1EE00, 0x1EE01, 0x0627), (0x1EE02, 0x1EE02, 0x062C), (0x1EE03, 0x1EE03, 0x062F),
  (0x1EE05, 0x1EE05, 0x0648), (0x1EE06, 0x1EE06, 0x0632), (0x1EE07, 0x1EE07, 0x062D),
  (0x1EE08, 0x1EE08, 0x0637), (0x1EE09, 0x1EE09, 0x064A), (0x1EE0A, 0x1EE0D, 0x0643),
  (0x1EE0E, 0x1EE0E, 0x0633), (0x1EE0F, 0x1EE0F, 0x0639), (0x1EE10, 0x1EE10, 0x0641),
  (0x1EE11, 0x1EE11, 0x0635), (0x1EE12, 0x1EE12, 0x0642), (0x1EE13, 0x1EE13, 0x0631),
  (0x1EE14, 0x1EE14, 0x0634), (0x1EE15, 0x1EE16, 0x062A), (0x1EE17, 0x1EE17, 0x062E),
  (0x1EE18, 0x1EE18, 0x0630), (0x1EE19, 0x1EE19, 0x0636), (0x1EE1A, 0x1EE1A, 0x0638),
  (0x1EE1B, 0x1EE1B, 0x063A), (0x1EE1C, 0x1EE1C, 0x066E), (0x1EE1D, 0x1EE1D, 0x06BA),
  (0x1EE1E, 0x1EE1E, 0x06A1), (0x1EE1F, 0x1EE1F, 0x066F), (0x1EE21, 0x1EE21, 0x0628),
  (0x1EE22, 0x1EE22, 0x062C), (0x1EE24, 0x1EE24, 0x0647), (0x1EE27, 0x1EE27, 0x062D),
  (0x1EE29, 0x1EE29, 0x064A), (0x1EE2A, 0x1EE2D, 0x0643), (0x1EE2E, 0x1EE2E, 0x0633),
  (0x1EE2F, 0x1EE2F, 0x0639), (0x1EE30, 0x1EE30, 0x0641), (0x1EE31, 0x1EE31, 0x0635),
  (0x1EE32, 0x1EE32, 0x0642), (0x1EE34, 0x1EE34, 0x0634), (0x1EE35, 0x1EE36, 0x062A),
  (0x1EE37, 0x1EE37, 0x062E), (0x1EE39, 0x1EE39, 0x0636), (0x1EE3B, 0x1EE3B, 0x063A),
  (0x1EE42, 0x1EE42, 0x062C), (0x1EE47, 0x1EE47, 0x062D), (0x1EE49, 0x1EE49, 0x064A),
  (0x1EE4B, 0x1EE4B, 0x0644), (0x1EE4D, 0x1EE4D, 0x0646), (0x1EE4E, 0x1EE4E, 0x0633),
  (0x1EE4F, 0x1EE4F, 0x0639), (0x1EE51, 0x1EE51, 0x0635), (0x1EE52, 0x1EE52, 0x0642),
  (0x1EE54, 0x1EE54, 0x0634), (0x1EE57, 0x1EE57, 0x062E), (0x1EE59, 0x1EE59, 0x0636),
  (0x1EE5B, 0x1EE5B, 0x063A), (0x1EE5D, 0x1EE5D, 0x06BA), (0x1EE5F, 0x1EE5F, 0x066F),
  (0x1EE61, 0x1EE61, 0x0628), (0x1EE62, 0x1EE62, 0x062C), (0x1EE64, 0x1EE64, 0x0647),
  (0x1EE67, 0x1EE67, 0x062D), (0x1EE68, 0x1EE68, 0x0637), (0x1EE69, 0x1EE69, 0x064A),
  (0x1EE6A, 0x1EE6A, 0x0643), (0x1EE6C, 0x1EE6D, 0x0645), (0x1EE6E, 0x1EE6E, 0x0633),
  (0x1EE6F, 0x1EE6F, 0x0639), (0x1EE70, 0x1EE70, 0x0641), (0x1EE71, 0x1EE71, 0x0635),
  (0x1EE72, 0x1EE72, 0x0642), (0x1EE74, 0x1EE74, 0x0634), (0x1EE75, 0x1EE76, 0x062A),
  (0x1EE77, 0x1EE77, 0x062E), (0x1EE79, 0x1EE79, 0x0636), (0x1EE7A, 0x1EE7A, 0x0638),
  (0x1EE7B, 0x1EE7B, 0x063A), (0x1EE7C, 0x1EE7C, 0x066E), (0x1EE7E, 0x1EE7E, 0x06A1),
  (0x1EE80, 0x1EE81, 0x0627), (0x1EE82, 0x1EE82, 0x062C), (0x1EE83, 0x1EE83, 0x062F),
  (0x1EE84, 0x1EE85, 0x0647), (0x1EE86, 0x1EE86, 0x0632), (0x1EE87, 0x1EE87, 0x062D),
  (0x1EE88, 0x1EE88, 0x0637), (0x1EE89, 0x1EE89, 0x064A), (0x1EE8B, 0x1EE8D, 0x0644),
  (0x1EE8E, 0x1EE8E, 0x0633), (0x1EE8F, 0x1EE8F, 0x0639), (0x1EE90, 0x1EE90, 0x0641),
  (0x1EE91, 0x1EE91, 0x0635), (0x1EE92, 0x1EE92, 0x0642), (0x1EE93, 0x1EE93, 0x0631),
  (0x1EE94, 0x1EE94, 0x0634), (0x1EE95, 0x1EE96, 0x062A), (0x1EE97, 0x1EE97, 0x062E),
  (0x1EE98, 0x1EE98, 0x0630), (0x1EE99, 0x1EE99, 0x0636), (0x1EE9A, 0x1EE9A, 0x0638),
  (0x1EE9B, 0x1EE9B, 0x063A), (0x1EEA1, 0x1EEA1, 0x0628), (0x1EEA2, 0x1EEA2, 0x062C),
  (0x1EEA3, 0x1EEA3, 0x062F), (0x1EEA5, 0x1EEA5, 0x0648), (0x1EEA6, 0x1EEA6, 0x0632),
  (0x1EEA7, 0x1EEA7, 0x062D), (0x1EEA8, 0x1EEA8, 0x0637), (0x1EEA9, 0x1EEA9, 0x064A),
  (0x1EEAB, 0x1EEAD, 0x0644), (0x1EEAE, 0x1EEAE, 0x0633), (0x1EEAF, 0x1EEAF, 0x0639),
  (0x1EEB0, 0x1EEB0, 0x0641), (0x1EEB1, 0x1EEB1, 0x0635), (0x1EEB2, 0x1EEB2, 0x0642),
  (0x1EEB3, 0x1EEB3, 0x0631), (0x1EEB4, 0x1EEB4, 0x0634), (0x1EEB5, 0x1EEB6, 0x062A),
  (0x1EEB7, 0x1EEB7, 0x062E), (0x1EEB8, 0x1EEB8, 0x0630), (0x1EEB9, 0x1EEB9, 0x0636),
  (0x1EEBA, 0x1EEBA, 0x0638), (0x1EEBB, 0x1EEBB, 0x063A), (0x1FBF0, 0x1FBF9, 0x0030)]

/-- Characters that stand for several plain ones. -/
def plainSequences : Array (Nat × List Nat) := #[
  (0x0132, [0x0049, 0x004A]), (0x0133, [0x0069, 0x006A]), (0x013F, [0x004C, 0x00B7]),
  (0x0140, [0x006C, 0x00B7]), (0x0149, [0x02BC, 0x006E]), (0x01C4, [0x0044, 0x005A, 0x030C]),
  (0x01C5, [0x0044, 0x007A, 0x030C]), (0x01C6, [0x0064, 0x007A, 0x030C]),
  (0x01C7, [0x004C, 0x004A]), (0x01C8, [0x004C, 0x006A]), (0x01C9, [0x006C, 0x006A]),
  (0x01CA, [0x004E, 0x004A]), (0x01CB, [0x004E, 0x006A]), (0x01CC, [0x006E, 0x006A]),
  (0x01F1, [0x0044, 0x005A]), (0x01F2, [0x0044, 0x007A]), (0x01F3, [0x0064, 0x007A]),
  (0x0344, [0x0308, 0x0301]), (0x0587, [0x0565, 0x0582]), (0x0675, [0x0627, 0x0674]),
  (0x0676, [0x0648, 0x0674]), (0x0677, [0x06C7, 0x0674]), (0x0678, [0x064A, 0x0674]),
  (0x0958, [0x0915, 0x093C]), (0x0959, [0x0916, 0x093C]), (0x095A, [0x0917, 0x093C]),
  (0x095B, [0x091C, 0x093C]), (0x095C, [0x0921, 0x093C]), (0x095D, [0x0922, 0x093C]),
  (0x095E, [0x092B, 0x093C]), (0x095F, [0x092F, 0x093C]), (0x09DC, [0x09A1, 0x09BC]),
  (0x09DD, [0x09A2, 0x09BC]), (0x09DF, [0x09AF, 0x09BC]), (0x0A33, [0x0A32, 0x0A3C]),
  (0x0A36, [0x0A38, 0x0A3C]), (0x0A59, [0x0A16, 0x0A3C]), (0x0A5A, [0x0A17, 0x0A3C]),
  (0x0A5B, [0x0A1C, 0x0A3C]), (0x0A5E, [0x0A2B, 0x0A3C]), (0x0B5C, [0x0B21, 0x0B3C]),
  (0x0B5D, [0x0B22, 0x0B3C]), (0x0E33, [0x0E4D, 0x0E32]), (0x0EB3, [0x0ECD, 0x0EB2]),
  (0x0EDC, [0x0EAB, 0x0E99]), (0x0EDD, [0x0EAB, 0x0EA1]), (0x0F43, [0x0F42, 0x0FB7]),
  (0x0F4D, [0x0F4C, 0x0FB7]), (0x0F52, [0x0F51, 0x0FB7]), (0x0F57, [0x0F56, 0x0FB7]),
  (0x0F5C, [0x0F5B, 0x0FB7]), (0x0F69, [0x0F40, 0x0FB5]), (0x0F73, [0x0F71, 0x0F72]),
  (0x0F75, [0x0F71, 0x0F74]), (0x0F76, [0x0FB2, 0x0F80]), (0x0F77, [0x0FB2, 0x0F71, 0x0F80]),
  (0x0F78, [0x0FB3, 0x0F80]), (0x0F79, [0x0FB3, 0x0F71, 0x0F80]), (0x0F81, [0x0F71, 0x0F80]),
  (0x0F93, [0x0F92, 0x0FB7]), (0x0F9D, [0x0F9C, 0x0FB7]), (0x0FA2, [0x0FA1, 0x0FB7]),
  (0x0FA7, [0x0FA6, 0x0FB7]), (0x0FAC, [0x0FAB, 0x0FB7]), (0x0FB9, [0x0F90, 0x0FB5]),
  (0x1E9A, [0x0061, 0x02BE]), (0x1F71, [0x03B1, 0x0301]), (0x1F73, [0x03B5, 0x0301]),
  (0x1F75, [0x03B7, 0x0301]), (0x1F77, [0x03B9, 0x0301]), (0x1F79, [0x03BF, 0x0301]),
  (0x1F7B, [0x03C5, 0x0301]), (0x1F7D, [0x03C9, 0x0301]), (0x1FBB, [0x0391, 0x0301]),
  (0x1FC9, [0x0395, 0x0301]), (0x1FCB, [0x0397, 0x0301]), (0x1FD3, [0x03B9, 0x0308, 0x0301]),
  (0x1FDB, [0x0399, 0x0301]), (0x1FE3, [0x03C5, 0x0308, 0x0301]), (0x1FEB, [0x03A5, 0x0301]),
  (0x1FF9, [0x039F, 0x0301]), (0x1FFB, [0x03A9, 0x0301]), (0x212B, [0x0041, 0x030A]),
  (0x2161, [0x0049, 0x0049]), (0x2162, [0x0049, 0x0049, 0x0049]), (0x2163, [0x0049, 0x0056]),
  (0x2165, [0x0056, 0x0049]), (0x2166, [0x0056, 0x0049, 0x0049]),
  (0x2167, [0x0056, 0x0049, 0x0049, 0x0049]), (0x2168, [0x0049, 0x0058]),
  (0x216A, [0x0058, 0x0049]), (0x216B, [0x0058, 0x0049, 0x0049]), (0x2171, [0x0069, 0x0069]),
  (0x2172, [0x0069, 0x0069, 0x0069]), (0x2173, [0x0069, 0x0076]), (0x2175, [0x0076, 0x0069]),
  (0x2176, [0x0076, 0x0069, 0x0069]), (0x2177, [0x0076, 0x0069, 0x0069, 0x0069]),
  (0x2178, [0x0069, 0x0078]), (0x217A, [0x0078, 0x0069]), (0x217B, [0x0078, 0x0069, 0x0069]),
  (0x309F, [0x3088, 0x308A]), (0x30FF, [0x30B3, 0x30C8]), (0xFB00, [0x0066, 0x0066]),
  (0xFB01, [0x0066, 0x0069]), (0xFB02, [0x0066, 0x006C]), (0xFB03, [0x0066, 0x0066, 0x0069]),
  (0xFB04, [0x0066, 0x0066, 0x006C]), (0xFB05, [0x0073, 0x0074]), (0xFB06, [0x0073, 0x0074]),
  (0xFB13, [0x0574, 0x0576]), (0xFB14, [0x0574, 0x0565]), (0xFB15, [0x0574, 0x056B]),
  (0xFB16, [0x057E, 0x0576]), (0xFB17, [0x0574, 0x056D]), (0xFB1D, [0x05D9, 0x05B4]),
  (0xFB1F, [0x05F2, 0x05B7]), (0xFB2A, [0x05E9, 0x05C1]), (0xFB2B, [0x05E9, 0x05C2]),
  (0xFB2C, [0x05E9, 0x05BC, 0x05C1]), (0xFB2D, [0x05E9, 0x05BC, 0x05C2]),
  (0xFB2E, [0x05D0, 0x05B7]), (0xFB2F, [0x05D0, 0x05B8]), (0xFB30, [0x05D0, 0x05BC]),
  (0xFB31, [0x05D1, 0x05BC]), (0xFB32, [0x05D2, 0x05BC]), (0xFB33, [0x05D3, 0x05BC]),
  (0xFB34, [0x05D4, 0x05BC]), (0xFB35, [0x05D5, 0x05BC]), (0xFB36, [0x05D6, 0x05BC]),
  (0xFB38, [0x05D8, 0x05BC]), (0xFB39, [0x05D9, 0x05BC]), (0xFB3A, [0x05DA, 0x05BC]),
  (0xFB3B, [0x05DB, 0x05BC]), (0xFB3C, [0x05DC, 0x05BC]), (0xFB3E, [0x05DE, 0x05BC]),
  (0xFB40, [0x05E0, 0x05BC]), (0xFB41, [0x05E1, 0x05BC]), (0xFB43, [0x05E3, 0x05BC]),
  (0xFB44, [0x05E4, 0x05BC]), (0xFB46, [0x05E6, 0x05BC]), (0xFB47, [0x05E7, 0x05BC]),
  (0xFB48, [0x05E8, 0x05BC]), (0xFB49, [0x05E9, 0x05BC]), (0xFB4A, [0x05EA, 0x05BC]),
  (0xFB4B, [0x05D5, 0x05B9]), (0xFB4C, [0x05D1, 0x05BF]), (0xFB4D, [0x05DB, 0x05BF]),
  (0xFB4E, [0x05E4, 0x05BF]), (0xFB4F, [0x05D0, 0x05DC]), (0xFBA4, [0x06D5, 0x0654]),
  (0xFBA5, [0x06D5, 0x0654]), (0xFBB0, [0x06D2, 0x0654]), (0xFBB1, [0x06D2, 0x0654]),
  (0xFBDD, [0x06C7, 0x0674]), (0xFBEA, [0x064A, 0x0654, 0x0627]),
  (0xFBEB, [0x064A, 0x0654, 0x0627]), (0xFBEC, [0x064A, 0x0654, 0x06D5]),
  (0xFBED, [0x064A, 0x0654, 0x06D5]), (0xFBEE, [0x064A, 0x0654, 0x0648]),
  (0xFBEF, [0x064A, 0x0654, 0x0648]), (0xFBF0, [0x064A, 0x0654, 0x06C7]),
  (0xFBF1, [0x064A, 0x0654, 0x06C7]), (0xFBF2, [0x064A, 0x0654, 0x06C6]),
  (0xFBF3, [0x064A, 0x0654, 0x06C6]), (0xFBF4, [0x064A, 0x0654, 0x06C8]),
  (0xFBF5, [0x064A, 0x0654, 0x06C8]), (0xFBF6, [0x064A, 0x0654, 0x06D0]),
  (0xFBF7, [0x064A, 0x0654, 0x06D0]), (0xFBF8, [0x064A, 0x0654, 0x06D0]),
  (0xFBF9, [0x064A, 0x0654, 0x0649]), (0xFBFA, [0x064A, 0x0654, 0x0649]),
  (0xFBFB, [0x064A, 0x0654, 0x0649]), (0xFC00, [0x064A, 0x0654, 0x062C]),
  (0xFC01, [0x064A, 0x0654, 0x062D]), (0xFC02, [0x064A, 0x0654, 0x0645]),
  (0xFC03, [0x064A, 0x0654, 0x0649]), (0xFC04, [0x064A, 0x0654, 0x064A]),
  (0xFC05, [0x0628, 0x062C]), (0xFC06, [0x0628, 0x062D]), (0xFC07, [0x0628, 0x062E]),
  (0xFC08, [0x0628, 0x0645]), (0xFC09, [0x0628, 0x0649]), (0xFC0A, [0x0628, 0x064A]),
  (0xFC0B, [0x062A, 0x062C]), (0xFC0C, [0x062A, 0x062D]), (0xFC0D, [0x062A, 0x062E]),
  (0xFC0E, [0x062A, 0x0645]), (0xFC0F, [0x062A, 0x0649]), (0xFC10, [0x062A, 0x064A]),
  (0xFC11, [0x062B, 0x062C]), (0xFC12, [0x062B, 0x0645]), (0xFC13, [0x062B, 0x0649]),
  (0xFC14, [0x062B, 0x064A]), (0xFC15, [0x062C, 0x062D]), (0xFC16, [0x062C, 0x0645]),
  (0xFC17, [0x062D, 0x062C]), (0xFC18, [0x062D, 0x0645]), (0xFC19, [0x062E, 0x062C]),
  (0xFC1A, [0x062E, 0x062D]), (0xFC1B, [0x062E, 0x0645]), (0xFC1C, [0x0633, 0x062C]),
  (0xFC1D, [0x0633, 0x062D]), (0xFC1E, [0x0633, 0x062E]), (0xFC1F, [0x0633, 0x0645]),
  (0xFC20, [0x0635, 0x062D]), (0xFC21, [0x0635, 0x0645]), (0xFC22, [0x0636, 0x062C]),
  (0xFC23, [0x0636, 0x062D]), (0xFC24, [0x0636, 0x062E]), (0xFC25, [0x0636, 0x0645]),
  (0xFC26, [0x0637, 0x062D]), (0xFC27, [0x0637, 0x0645]), (0xFC28, [0x0638, 0x0645]),
  (0xFC29, [0x0639, 0x062C]), (0xFC2A, [0x0639, 0x0645]), (0xFC2B, [0x063A, 0x062C]),
  (0xFC2C, [0x063A, 0x0645]), (0xFC2D, [0x0641, 0x062C]), (0xFC2E, [0x0641, 0x062D]),
  (0xFC2F, [0x0641, 0x062E]), (0xFC30, [0x0641, 0x0645]), (0xFC31, [0x0641, 0x0649]),
  (0xFC32, [0x0641, 0x064A]), (0xFC33, [0x0642, 0x062D]), (0xFC34, [0x0642, 0x0645]),
  (0xFC35, [0x0642, 0x0649]), (0xFC36, [0x0642, 0x064A]), (0xFC37, [0x0643, 0x0627]),
  (0xFC38, [0x0643, 0x062C]), (0xFC39, [0x0643, 0x062D]), (0xFC3A, [0x0643, 0x062E]),
  (0xFC3B, [0x0643, 0x0644]), (0xFC3C, [0x0643, 0x0645]), (0xFC3D, [0x0643, 0x0649]),
  (0xFC3E, [0x0643, 0x064A]), (0xFC3F, [0x0644, 0x062C]), (0xFC40, [0x0644, 0x062D]),
  (0xFC41, [0x0644, 0x062E]), (0xFC42, [0x0644, 0x0645]), (0xFC43, [0x0644, 0x0649]),
  (0xFC44, [0x0644, 0x064A]), (0xFC45, [0x0645, 0x062C]), (0xFC46, [0x0645, 0x062D]),
  (0xFC47, [0x0645, 0x062E]), (0xFC48, [0x0645, 0x0645]), (0xFC49, [0x0645, 0x0649]),
  (0xFC4A, [0x0645, 0x064A]), (0xFC4B, [0x0646, 0x062C]), (0xFC4C, [0x0646, 0x062D]),
  (0xFC4D, [0x0646, 0x062E]), (0xFC4E, [0x0646, 0x0645]), (0xFC4F, [0x0646, 0x0649]),
  (0xFC50, [0x0646, 0x064A]), (0xFC51, [0x0647, 0x062C]), (0xFC52, [0x0647, 0x0645]),
  (0xFC53, [0x0647, 0x0649]), (0xFC54, [0x0647, 0x064A]), (0xFC55, [0x064A, 0x062C]),
  (0xFC56, [0x064A, 0x062D]), (0xFC57, [0x064A, 0x062E]), (0xFC58, [0x064A, 0x0645]),
  (0xFC59, [0x064A, 0x0649]), (0xFC5A, [0x064A, 0x064A]), (0xFC5B, [0x0630, 0x0670]),
  (0xFC5C, [0x0631, 0x0670]), (0xFC5D, [0x0649, 0x0670]), (0xFC64, [0x064A, 0x0654, 0x0631]),
  (0xFC65, [0x064A, 0x0654, 0x0632]), (0xFC66, [0x064A, 0x0654, 0x0645]),
  (0xFC67, [0x064A, 0x0654, 0x0646]), (0xFC68, [0x064A, 0x0654, 0x0649]),
  (0xFC69, [0x064A, 0x0654, 0x064A]), (0xFC6A, [0x0628, 0x0631]), (0xFC6B, [0x0628, 0x0632]),
  (0xFC6C, [0x0628, 0x0645]), (0xFC6D, [0x0628, 0x0646]), (0xFC6E, [0x0628, 0x0649]),
  (0xFC6F, [0x0628, 0x064A]), (0xFC70, [0x062A, 0x0631]), (0xFC71, [0x062A, 0x0632]),
  (0xFC72, [0x062A, 0x0645]), (0xFC73, [0x062A, 0x0646]), (0xFC74, [0x062A, 0x0649]),
  (0xFC75, [0x062A, 0x064A]), (0xFC76, [0x062B, 0x0631]), (0xFC77, [0x062B, 0x0632]),
  (0xFC78, [0x062B, 0x0645]), (0xFC79, [0x062B, 0x0646]), (0xFC7A, [0x062B, 0x0649]),
  (0xFC7B, [0x062B, 0x064A]), (0xFC7C, [0x0641, 0x0649]), (0xFC7D, [0x0641, 0x064A]),
  (0xFC7E, [0x0642, 0x0649]), (0xFC7F, [0x0642, 0x064A]), (0xFC80, [0x0643, 0x0627]),
  (0xFC81, [0x0643, 0x0644]), (0xFC82, [0x0643, 0x0645]), (0xFC83, [0x0643, 0x0649]),
  (0xFC84, [0x0643, 0x064A]), (0xFC85, [0x0644, 0x0645]), (0xFC86, [0x0644, 0x0649]),
  (0xFC87, [0x0644, 0x064A]), (0xFC88, [0x0645, 0x0627]), (0xFC89, [0x0645, 0x0645]),
  (0xFC8A, [0x0646, 0x0631]), (0xFC8B, [0x0646, 0x0632]), (0xFC8C, [0x0646, 0x0645]),
  (0xFC8D, [0x0646, 0x0646]), (0xFC8E, [0x0646, 0x0649]), (0xFC8F, [0x0646, 0x064A]),
  (0xFC90, [0x0649, 0x0670]), (0xFC91, [0x064A, 0x0631]), (0xFC92, [0x064A, 0x0632]),
  (0xFC93, [0x064A, 0x0645]), (0xFC94, [0x064A, 0x0646]), (0xFC95, [0x064A, 0x0649]),
  (0xFC96, [0x064A, 0x064A]), (0xFC97, [0x064A, 0x0654, 0x062C]),
  (0xFC98, [0x064A, 0x0654, 0x062D]), (0xFC99, [0x064A, 0x0654, 0x062E]),
  (0xFC9A, [0x064A, 0x0654, 0x0645]), (0xFC9B, [0x064A, 0x0654, 0x0647]),
  (0xFC9C, [0x0628, 0x062C]), (0xFC9D, [0x0628, 0x062D]), (0xFC9E, [0x0628, 0x062E]),
  (0xFC9F, [0x0628, 0x0645]), (0xFCA0, [0x0628, 0x0647]), (0xFCA1, [0x062A, 0x062C]),
  (0xFCA2, [0x062A, 0x062D]), (0xFCA3, [0x062A, 0x062E]), (0xFCA4, [0x062A, 0x0645]),
  (0xFCA5, [0x062A, 0x0647]), (0xFCA6, [0x062B, 0x0645]), (0xFCA7, [0x062C, 0x062D]),
  (0xFCA8, [0x062C, 0x0645]), (0xFCA9, [0x062D, 0x062C]), (0xFCAA, [0x062D, 0x0645]),
  (0xFCAB, [0x062E, 0x062C]), (0xFCAC, [0x062E, 0x0645]), (0xFCAD, [0x0633, 0x062C]),
  (0xFCAE, [0x0633, 0x062D]), (0xFCAF, [0x0633, 0x062E]), (0xFCB0, [0x0633, 0x0645]),
  (0xFCB1, [0x0635, 0x062D]), (0xFCB2, [0x0635, 0x062E]), (0xFCB3, [0x0635, 0x0645]),
  (0xFCB4, [0x0636, 0x062C]), (0xFCB5, [0x0636, 0x062D]), (0xFCB6, [0x0636, 0x062E]),
  (0xFCB7, [0x0636, 0x0645]), (0xFCB8, [0x0637, 0x062D]), (0xFCB9, [0x0638, 0x0645]),
  (0xFCBA, [0x0639, 0x062C]), (0xFCBB, [0x0639, 0x0645]), (0xFCBC, [0x063A, 0x062C]),
  (0xFCBD, [0x063A, 0x0645]), (0xFCBE, [0x0641, 0x062C]), (0xFCBF, [0x0641, 0x062D]),
  (0xFCC0, [0x0641, 0x062E]), (0xFCC1, [0x0641, 0x0645]), (0xFCC2, [0x0642, 0x062D]),
  (0xFCC3, [0x0642, 0x0645]), (0xFCC4, [0x0643, 0x062C]), (0xFCC5, [0x0643, 0x062D]),
  (0xFCC6, [0x0643, 0x062E]), (0xFCC7, [0x0643, 0x0644]), (0xFCC8, [0x0643, 0x0645]),
  (0xFCC9, [0x0644, 0x062C]), (0xFCCA, [0x0644, 0x062D]), (0xFCCB, [0x0644, 0x062E]),
  (0xFCCC, [0x0644, 0x0645]), (0xFCCD, [0x0644, 0x0647]), (0xFCCE, [0x0645, 0x062C]),
  (0xFCCF, [0x0645, 0x062D]), (0xFCD0, [0x0645, 0x062E]), (0xFCD1, [0x0645, 0x0645]),
  (0xFCD2, [0x0646, 0x062C]), (0xFCD3, [0x0646, 0x062D]), (0xFCD4, [0x0646, 0x062E]),
  (0xFCD5, [0x0646, 0x0645]), (0xFCD6, [0x0646, 0x0647]), (0xFCD7, [0x0647, 0x062C]),
  (0xFCD8, [0x0647, 0x0645]), (0xFCD9, [0x0647, 0x0670]), (0xFCDA, [0x064A, 0x062C]),
  (0xFCDB, [0x064A, 0x062D]), (0xFCDC, [0x064A, 0x062E]), (0xFCDD, [0x064A, 0x0645]),
  (0xFCDE, [0x064A, 0x0647]), (0xFCDF, [0x064A, 0x0654, 0x0645]),
  (0xFCE0, [0x064A, 0x0654, 0x0647]), (0xFCE1, [0x0628, 0x0645]), (0xFCE2, [0x0628, 0x0647]),
  (0xFCE3, [0x062A, 0x0645]), (0xFCE4, [0x062A, 0x0647]), (0xFCE5, [0x062B, 0x0645]),
  (0xFCE6, [0x062B, 0x0647]), (0xFCE7, [0x0633, 0x0645]), (0xFCE8, [0x0633, 0x0647]),
  (0xFCE9, [0x0634, 0x0645]), (0xFCEA, [0x0634, 0x0647]), (0xFCEB, [0x0643, 0x0644]),
  (0xFCEC, [0x0643, 0x0645]), (0xFCED, [0x0644, 0x0645]), (0xFCEE, [0x0646, 0x0645]),
  (0xFCEF, [0x0646, 0x0647]), (0xFCF0, [0x064A, 0x0645]), (0xFCF1, [0x064A, 0x0647]),
  (0xFCF2, [0x0640, 0x064E, 0x0651]), (0xFCF3, [0x0640, 0x064F, 0x0651]),
  (0xFCF4, [0x0640, 0x0650, 0x0651]), (0xFCF5, [0x0637, 0x0649]), (0xFCF6, [0x0637, 0x064A]),
  (0xFCF7, [0x0639, 0x0649]), (0xFCF8, [0x0639, 0x064A]), (0xFCF9, [0x063A, 0x0649]),
  (0xFCFA, [0x063A, 0x064A]), (0xFCFB, [0x0633, 0x0649]), (0xFCFC, [0x0633, 0x064A]),
  (0xFCFD, [0x0634, 0x0649]), (0xFCFE, [0x0634, 0x064A]), (0xFCFF, [0x062D, 0x0649]),
  (0xFD00, [0x062D, 0x064A]), (0xFD01, [0x062C, 0x0649]), (0xFD02, [0x062C, 0x064A]),
  (0xFD03, [0x062E, 0x0649]), (0xFD04, [0x062E, 0x064A]), (0xFD05, [0x0635, 0x0649]),
  (0xFD06, [0x0635, 0x064A]), (0xFD07, [0x0636, 0x0649]), (0xFD08, [0x0636, 0x064A]),
  (0xFD09, [0x0634, 0x062C]), (0xFD0A, [0x0634, 0x062D]), (0xFD0B, [0x0634, 0x062E]),
  (0xFD0C, [0x0634, 0x0645]), (0xFD0D, [0x0634, 0x0631]), (0xFD0E, [0x0633, 0x0631]),
  (0xFD0F, [0x0635, 0x0631]), (0xFD10, [0x0636, 0x0631]), (0xFD11, [0x0637, 0x0649]),
  (0xFD12, [0x0637, 0x064A]), (0xFD13, [0x0639, 0x0649]), (0xFD14, [0x0639, 0x064A]),
  (0xFD15, [0x063A, 0x0649]), (0xFD16, [0x063A, 0x064A]), (0xFD17, [0x0633, 0x0649]),
  (0xFD18, [0x0633, 0x064A]), (0xFD19, [0x0634, 0x0649]), (0xFD1A, [0x0634, 0x064A]),
  (0xFD1B, [0x062D, 0x0649]), (0xFD1C, [0x062D, 0x064A]), (0xFD1D, [0x062C, 0x0649]),
  (0xFD1E, [0x062C, 0x064A]), (0xFD1F, [0x062E, 0x0649]), (0xFD20, [0x062E, 0x064A]),
  (0xFD21, [0x0635, 0x0649]), (0xFD22, [0x0635, 0x064A]), (0xFD23, [0x0636, 0x0649]),
  (0xFD24, [0x0636, 0x064A]), (0xFD25, [0x0634, 0x062C]), (0xFD26, [0x0634, 0x062D]),
  (0xFD27, [0x0634, 0x062E]), (0xFD28, [0x0634, 0x0645]), (0xFD29, [0x0634, 0x0631]),
  (0xFD2A, [0x0633, 0x0631]), (0xFD2B, [0x0635, 0x0631]), (0xFD2C, [0x0636, 0x0631]),
  (0xFD2D, [0x0634, 0x062C]), (0xFD2E, [0x0634, 0x062D]), (0xFD2F, [0x0634, 0x062E]),
  (0xFD30, [0x0634, 0x0645]), (0xFD31, [0x0633, 0x0647]), (0xFD32, [0x0634, 0x0647]),
  (0xFD33, [0x0637, 0x0645]), (0xFD34, [0x0633, 0x062C]), (0xFD35, [0x0633, 0x062D]),
  (0xFD36, [0x0633, 0x062E]), (0xFD37, [0x0634, 0x062C]), (0xFD38, [0x0634, 0x062D]),
  (0xFD39, [0x0634, 0x062E]), (0xFD3A, [0x0637, 0x0645]), (0xFD3B, [0x0638, 0x0645]),
  (0xFD3C, [0x0627, 0x064B]), (0xFD3D, [0x0627, 0x064B]), (0xFD50, [0x062A, 0x062C, 0x0645]),
  (0xFD51, [0x062A, 0x062D, 0x062C]), (0xFD52, [0x062A, 0x062D, 0x062C]),
  (0xFD53, [0x062A, 0x062D, 0x0645]), (0xFD54, [0x062A, 0x062E, 0x0645]),
  (0xFD55, [0x062A, 0x0645, 0x062C]), (0xFD56, [0x062A, 0x0645, 0x062D]),
  (0xFD57, [0x062A, 0x0645, 0x062E]), (0xFD58, [0x062C, 0x0645, 0x062D]),
  (0xFD59, [0x062C, 0x0645, 0x062D]), (0xFD5A, [0x062D, 0x0645, 0x064A]),
  (0xFD5B, [0x062D, 0x0645, 0x0649]), (0xFD5C, [0x0633, 0x062D, 0x062C]),
  (0xFD5D, [0x0633, 0x062C, 0x062D]), (0xFD5E, [0x0633, 0x062C, 0x0649]),
  (0xFD5F, [0x0633, 0x0645, 0x062D]), (0xFD60, [0x0633, 0x0645, 0x062D]),
  (0xFD61, [0x0633, 0x0645, 0x062C]), (0xFD62, [0x0633, 0x0645, 0x0645]),
  (0xFD63, [0x0633, 0x0645, 0x0645]), (0xFD64, [0x0635, 0x062D, 0x062D]),
  (0xFD65, [0x0635, 0x062D, 0x062D]), (0xFD66, [0x0635, 0x0645, 0x0645]),
  (0xFD67, [0x0634, 0x062D, 0x0645]), (0xFD68, [0x0634, 0x062D, 0x0645]),
  (0xFD69, [0x0634, 0x062C, 0x064A]), (0xFD6A, [0x0634, 0x0645, 0x062E]),
  (0xFD6B, [0x0634, 0x0645, 0x062E]), (0xFD6C, [0x0634, 0x0645, 0x0645]),
  (0xFD6D, [0x0634, 0x0645, 0x0645]), (0xFD6E, [0x0636, 0x062D, 0x0649]),
  (0xFD6F, [0x0636, 0x062E, 0x0645]), (0xFD70, [0x0636, 0x062E, 0x0645]),
  (0xFD71, [0x0637, 0x0645, 0x062D]), (0xFD72, [0x0637, 0x0645, 0x062D]),
  (0xFD73, [0x0637, 0x0645, 0x0645]), (0xFD74, [0x0637, 0x0645, 0x064A]),
  (0xFD75, [0x0639, 0x062C, 0x0645]), (0xFD76, [0x0639, 0x0645, 0x0645]),
  (0xFD77, [0x0639, 0x0645, 0x0645]), (0xFD78, [0x0639, 0x0645, 0x0649]),
  (0xFD79, [0x063A, 0x0645, 0x0645]), (0xFD7A, [0x063A, 0x0645, 0x064A]),
  (0xFD7B, [0x063A, 0x0645, 0x0649]), (0xFD7C, [0x0641, 0x062E, 0x0645]),
  (0xFD7D, [0x0641, 0x062E, 0x0645]), (0xFD7E, [0x0642, 0x0645, 0x062D]),
  (0xFD7F, [0x0642, 0x0645, 0x0645]), (0xFD80, [0x0644, 0x062D, 0x0645]),
  (0xFD81, [0x0644, 0x062D, 0x064A]), (0xFD82, [0x0644, 0x062D, 0x0649]),
  (0xFD83, [0x0644, 0x062C, 0x062C]), (0xFD84, [0x0644, 0x062C, 0x062C]),
  (0xFD85, [0x0644, 0x062E, 0x0645]), (0xFD86, [0x0644, 0x062E, 0x0645]),
  (0xFD87, [0x0644, 0x0645, 0x062D]), (0xFD88, [0x0644, 0x0645, 0x062D]),
  (0xFD89, [0x0645, 0x062D, 0x062C]), (0xFD8A, [0x0645, 0x062D, 0x0645]),
  (0xFD8B, [0x0645, 0x062D, 0x064A]), (0xFD8C, [0x0645, 0x062C, 0x062D]),
  (0xFD8D, [0x0645, 0x062C, 0x0645]), (0xFD8E, [0x0645, 0x062E, 0x062C]),
  (0xFD8F, [0x0645, 0x062E, 0x0645]), (0xFD92, [0x0645, 0x062C, 0x062E]),
  (0xFD93, [0x0647, 0x0645, 0x062C]), (0xFD94, [0x0647, 0x0645, 0x0645]),
  (0xFD95, [0x0646, 0x062D, 0x0645]), (0xFD96, [0x0646, 0x062D, 0x0649]),
  (0xFD97, [0x0646, 0x062C, 0x0645]), (0xFD98, [0x0646, 0x062C, 0x0645]),
  (0xFD99, [0x0646, 0x062C, 0x0649]), (0xFD9A, [0x0646, 0x0645, 0x064A]),
  (0xFD9B, [0x0646, 0x0645, 0x0649]), (0xFD9C, [0x064A, 0x0645, 0x0645]),
  (0xFD9D, [0x064A, 0x0645, 0x0645]), (0xFD9E, [0x0628, 0x062E, 0x064A]),
  (0xFD9F, [0x062A, 0x062C, 0x064A]), (0xFDA0, [0x062A, 0x062C, 0x0649]),
  (0xFDA1, [0x062A, 0x062E, 0x064A]), (0xFDA2, [0x062A, 0x062E, 0x0649]),
  (0xFDA3, [0x062A, 0x0645, 0x064A]), (0xFDA4, [0x062A, 0x0645, 0x0649]),
  (0xFDA5, [0x062C, 0x0645, 0x064A]), (0xFDA6, [0x062C, 0x062D, 0x0649]),
  (0xFDA7, [0x062C, 0x0645, 0x0649]), (0xFDA8, [0x0633, 0x062E, 0x0649]),
  (0xFDA9, [0x0635, 0x062D, 0x064A]), (0xFDAA, [0x0634, 0x062D, 0x064A]),
  (0xFDAB, [0x0636, 0x062D, 0x064A]), (0xFDAC, [0x0644, 0x062C, 0x064A]),
  (0xFDAD, [0x0644, 0x0645, 0x064A]), (0xFDAE, [0x064A, 0x062D, 0x064A]),
  (0xFDAF, [0x064A, 0x062C, 0x064A]), (0xFDB0, [0x064A, 0x0645, 0x064A]),
  (0xFDB1, [0x0645, 0x0645, 0x064A]), (0xFDB2, [0x0642, 0x0645, 0x064A]),
  (0xFDB3, [0x0646, 0x062D, 0x064A]), (0xFDB4, [0x0642, 0x0645, 0x062D]),
  (0xFDB5, [0x0644, 0x062D, 0x0645]), (0xFDB6, [0x0639, 0x0645, 0x064A]),
  (0xFDB7, [0x0643, 0x0645, 0x064A]), (0xFDB8, [0x0646, 0x062C, 0x062D]),
  (0xFDB9, [0x0645, 0x062E, 0x064A]), (0xFDBA, [0x0644, 0x062C, 0x0645]),
  (0xFDBB, [0x0643, 0x0645, 0x0645]), (0xFDBC, [0x0644, 0x062C, 0x0645]),
  (0xFDBD, [0x0646, 0x062C, 0x062D]), (0xFDBE, [0x062C, 0x062D, 0x064A]),
  (0xFDBF, [0x062D, 0x062C, 0x064A]), (0xFDC0, [0x0645, 0x062C, 0x064A]),
  (0xFDC1, [0x0641, 0x0645, 0x064A]), (0xFDC2, [0x0628, 0x062D, 0x064A]),
  (0xFDC3, [0x0643, 0x0645, 0x0645]), (0xFDC4, [0x0639, 0x062C, 0x0645]),
  (0xFDC5, [0x0635, 0x0645, 0x0645]), (0xFDC6, [0x0633, 0x062E, 0x064A]),
  (0xFDC7, [0x0646, 0x062C, 0x064A]), (0xFDF0, [0x0635, 0x0644, 0x06D2]),
  (0xFDF1, [0x0642, 0x0644, 0x06D2]), (0xFDF2, [0x0627, 0x0644, 0x0644, 0x0647]),
  (0xFDF3, [0x0627, 0x0643, 0x0628, 0x0631]), (0xFDF4, [0x0645, 0x062D, 0x0645, 0x062F]),
  (0xFDF5, [0x0635, 0x0644, 0x0639, 0x0645]), (0xFDF6, [0x0631, 0x0633, 0x0648, 0x0644]),
  (0xFDF7, [0x0639, 0x0644, 0x064A, 0x0647]), (0xFDF8, [0x0648, 0x0633, 0x0644, 0x0645]),
  (0xFDF9, [0x0635, 0x0644, 0x0649]), (0xFE71, [0x0640, 0x064B]), (0xFE77, [0x0640, 0x064E]),
  (0xFE79, [0x0640, 0x064F]), (0xFE7B, [0x0640, 0x0650]), (0xFE7D, [0x0640, 0x0651]),
  (0xFE7F, [0x0640, 0x0652]), (0xFE81, [0x0627, 0x0653]), (0xFE82, [0x0627, 0x0653]),
  (0xFE83, [0x0627, 0x0654]), (0xFE84, [0x0627, 0x0654]), (0xFE85, [0x0648, 0x0654]),
  (0xFE86, [0x0648, 0x0654]), (0xFE87, [0x0627, 0x0655]), (0xFE88, [0x0627, 0x0655]),
  (0xFE89, [0x064A, 0x0654]), (0xFE8A, [0x064A, 0x0654]), (0xFE8B, [0x064A, 0x0654]),
  (0xFE8C, [0x064A, 0x0654]), (0xFEF5, [0x0644, 0x0627, 0x0653]),
  (0xFEF6, [0x0644, 0x0627, 0x0653]), (0xFEF7, [0x0644, 0x0627, 0x0654]),
  (0xFEF8, [0x0644, 0x0627, 0x0654]), (0xFEF9, [0x0644, 0x0627, 0x0655]),
  (0xFEFA, [0x0644, 0x0627, 0x0655]), (0xFEFB, [0x0644, 0x0627]), (0xFEFC, [0x0644, 0x0627])]

end ElementTags.Text
