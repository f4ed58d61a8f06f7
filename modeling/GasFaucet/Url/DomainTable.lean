/-!
# Characters of domain names

Which characters stand for themselves in the name of a domain, which are left out, and which stand for
others in rows.  Characters whose substitute may not stand in a domain are not listed.
-/

namespace GasFaucet.Url

def plainLetters : List (Nat × Nat) :=
  [(0x0, 0x40), (0x5b, 0x7f), (0xa1, 0xa7), (0xa9, 0xa9), (0xab, 0xac), (0xae, 0xae), (0xb0, 0xb1),
   (0xb6, 0xb7), (0xbb, 0xbb), (0xbf, 0xbf), (0xd7, 0xd7), (0xdf, 0xff), (0x101, 0x101),
   (0x103, 0x103), (0x105, 0x105), (0x107, 0x107), (0x109, 0x109), (0x10b, 0x10b), (0x10d, 0x10d),
   (0x10f, 0x10f), (0x111, 0x111), (0x113, 0x113), (0x115, 0x115), (0x117, 0x117), (0x119, 0x119),
   (0x11b, 0x11b), (0x11d, 0x11d), (0x11f, 0x11f), (0x121, 0x121), (0x123, 0x123), (0x125, 0x125),
   (0x127, 0x127), (0x129, 0x129), (0x12b, 0x12b), (0x12d, 0x12d), (0x12f, 0x12f), (0x131, 0x131),
   (0x135, 0x135), (0x137, 0x138), (0x13a, 0x13a), (0x13c, 0x13c), (0x13e, 0x13e), (0x142, 0x142),
   (0x144, 0x144), (0x146, 0x146), (0x148, 0x148), (0x14b, 0x14b), (0x14d, 0x14d), (0x14f, 0x14f),
   (0x151, 0x151), (0x153, 0x153), (0x155, 0x155), (0x157, 0x157), (0x159, 0x159), (0x15b, 0x15b),
   (0x15d, 0x15d), (0x15f, 0x15f), (0x161, 0x161), (0x163, 0x163), (0x165, 0x165), (0x167, 0x167),
   (0x169, 0x169), (0x16b, 0x16b), (0x16d, 0x16d), (0x16f, 0x16f), (0x171, 0x171), (0x173, 0x173),
   (0x175, 0x175), (0x177, 0x177), (0x17a, 0x17a), (0x17c, 0x17c), (0x17e, 0x17e), (0x180, 0x180),
   (0x183, 0x183), (0x185, 0x185), (0x188, 0x188), (0x18c, 0x18d), (0x192, 0x192), (0x195, 0x195),
   (0x199, 0x19b), (0x19e, 0x19e), (0x1a1, 0x1a1), (0x1a3, 0x1a3), (0x1a5, 0x1a5), (0x1a8, 0x1a8),
   (0x1aa, 0x1ab), (0x1ad, 0x1ad), (0x1b0, 0x1b0), (0x1b4, 0x1b4), (0x1b6, 0x1b6), (0x1b9, 0x1bb),
   (0x1bd, 0x1c3), (0x1ce, 0x1ce), (0x1d0, 0x1d0), (0x1d2, 0x1d2), (0x1d4, 0x1d4), (0x1d6, 0x1d6),
   (0x1d8, 0x1d8), (0x1da, 0x1da), (0x1dc, 0x1dd), (0x1df, 0x1df), (0x1e1, 0x1e1), (0x1e3, 0x1e3),
   (0x1e5, 0x1e5), (0x1e7, 0x1e7), (0x1e9, 0x1e9), (0x1eb, 0x1eb), (0x1ed, 0x1ed), (0x1ef, 0x1f0),
   (0x1f5, 0x1f5), (0x1f9, 0x1f9), (0x1fb, 0x1fb), (0x1fd, 0x1fd), (0x1ff, 0x1ff), (0x201, 0x201),
   (0x203, 0x203), (0x205, 0x205), (0x207, 0x207), (0x209, 0x209), (0x20b, 0x20b), (0x20d, 0x20d),
   (0x20f, 0x20f), (0x211, 0x211), (0x213, 0x213), (0x215, 0x215), (0x217, 0x217), (0x219, 0x219),
   (0x21b, 0x21b), (0x21d, 0x21d), (0x21f, 0x21f), (0x221, 0x221), (0x223, 0x223), (0x225, 0x225),
   (0x227, 0x227), (0x229, 0x229), (0x22b, 0x22b), (0x22d, 0x22d), (0x22f, 0x22f), (0x231, 0x231),
   (0x233, 0x239), (0x23c, 0x23c), (0x23f, 0x240), (0x242, 0x242), (0x247, 0x247), (0x249, 0x249),
   (0x24b, 0x24b), (0x24d, 0x24d), (0x24f, 0x2af), (0x2b9, 0x2d7), (0x2de, 0x2df), (0x2e5, 0x33f),
   (0x342, 0x342), (0x346, 0x34e), (0x350, 0x36f), (0x371, 0x371), (0x373, 0x373), (0x375, 0x375),
   (0x377, 0x377), (0x37b, 0x37d), (0x390, 0x390), (0x3ac, 0x3ce), (0x3d7, 0x3d7), (0x3d9, 0x3d9),
   (0x3db, 0x3db), (0x3dd, 0x3dd), (0x3df, 0x3df), (0x3e1, 0x3e1), (0x3e3, 0x3e3), (0x3e5, 0x3e5),
   (0x3e7, 0x3e7), (0x3e9, 0x3e9), (0x3eb, 0x3eb), (0x3ed, 0x3ed), (0x3ef, 0x3ef), (0x3f3, 0x3f3),
   (0x3f6, 0x3f6), (0x3f8, 0x3f8), (0x3fb, 0x3fc), (0x430, 0x45f), (0x461, 0x461), (0x463, 0x463),
   (0x465, 0x465), (0x467, 0x467), (0x469, 0x469), (0x46b, 0x46b), (0x46d, 0x46d), (0x46f, 0x46f),
   (0x471, 0x471), (0x473, 0x473), (0x475, 0x475), (0x477, 0x477), (0x479, 0x479), (0x47b, 0x47b),
   (0x47d, 0x47d), (0x47f, 0x47f), (0x481, 0x489), (0x48b, 0x48b), (0x48d, 0x48d), (0x48f, 0x48f),
   (0x491, 0x491), (0x493, 0x493), (0x495, 0x495), (0x497, 0x497), (0x499, 0x499), (0x49b, 0x49b),
   (0x49d, 0x49d), (0x49f, 0x49f), (0x4a1, 0x4a1), (0x4a3, 0x4a3), (0x4a5, 0x4a5), (0x4a7, 0x4a7),
   (0x4a9, 0x4a9), (0x4ab, 0x4ab), (0x4ad, 0x4ad), (0x4af, 0x4af), (0x4b1, 0x4b1), (0x4b3, 0x4b3),
   (0x4b5, 0x4b5), (0x4b7, 0x4b7), (0x4b9, 0x4b9), (0x4bb, 0x4bb), (0x4bd, 0x4bd), (0x4bf, 0x4bf),
   (0x4c2, 0x4c2), (0x4c4, 0x4c4), (0x4c6, 0x4c6), (0x4c8, 0x4c8), (0x4ca, 0x4ca), (0x4cc, 0x4cc),
   (0x4ce, 0x4cf), (0x4d1, 0x4d1), (0x4d3, 0x4d3), (0x4d5, 0x4d5), (0x4d7, 0x4d7), (0x4d9, 0x4d9),
   (0x4db, 0x4db), (0x4dd, 0x4dd), (0x4df, 0x4df), (0x4e1, 0x4e1), (0x4e3, 0x4e3), (0x4e5, 0x4e5),
   (0x4e7, 0x4e7), (0x4e9, 0x4e9), (0x4eb, 0x4eb), (0x4ed, 0x4ed), (0x4ef, 0x4ef), (0x4f1, 0x4f1),
   (0x4f3, 0x4f3), (0x4f5, 0x4f5), (0x4f7, 0x4f7), (0x4f9, 0x4f9), (0x4fb, 0x4fb), (0x4fd, 0x4fd),
   (0x4ff, 0x4ff), (0x501, 0x501), (0x503, 0x503), (0x505, 0x505), (0x507, 0x507), (0x509, 0x509),
   (0x50b, 0x50b), (0x50d, 0x50d), (0x50f, 0x50f), (0x511, 0x511), (0x513, 0x513), (0x515, 0x515),
   (0x517, 0x517), (0x519, 0x519), (0x51b, 0x51b), (0x51d, 0x51d), (0x51f, 0x51f), (0x521, 0x521),
   (0x523, 0x523), (0x525, 0x525), (0x527, 0x527), (0x529, 0x529), (0x52b, 0x52b), (0x52d, 0x52d),
   (0x52f, 0x52f), (0x559, 0x586), (0x588, 0x58a), (0x58d, 0x58f), (0x591, 0x5c7), (0x5d0, 0x5ea),
   (0x5ef, 0x5f4), (0x606, 0x61b), (0x61d, 0x674), (0x679, 0x6dc), (0x6de, 0x70d), (0x710, 0x74a),
   (0x74d, 0x7b1), (0x7c0, 0x7fa), (0x7fd, 0x82d), (0x830, 0x83e), (0x840, 0x85b), (0x85e, 0x85e),
   (0x860, 0x86a), (0x870, 0x88f), (0x897, 0x8e1), (0x8e3, 0x957), (0x960, 0x983), (0x985, 0x98c),
   (0x98f, 0x990), (0x993, 0x9a8), (0x9aa, 0x9b0), (0x9b2, 0x9b2), (0x9b6, 0x9b9), (0x9bc, 0x9c4),
   (0x9c7, 0x9c8), (0x9cb, 0x9ce), (0x9d7, 0x9d7), (0x9e0, 0x9e3), (0x9e6, 0x9fe), (0xa01, 0xa03),
   (0xa05, 0xa0a), (0xa0f, 0xa10), (0xa13, 0xa28), (0xa2a, 0xa30), (0xa32, 0xa32), (0xa35, 0xa35),
   (0xa38, 0xa39), (0xa3c, 0xa3c), (0xa3e, 0xa42), (0xa47, 0xa48), (0xa4b, 0xa4d), (0xa51, 0xa51),
   (0xa5c, 0xa5c), (0xa66, 0xa76), (0xa81, 0xa83), (0xa85, 0xa8d), (0xa8f, 0xa91), (0xa93, 0xaa8),
   (0xaaa, 0xab0), (0xab2, 0xab3), (0xab5, 0xab9), (0xabc, 0xac5), (0xac7, 0xac9), (0xacb, 0xacd),
   (0xad0, 0xad0), (0xae0, 0xae3), (0xae6, 0xaf1), (0xaf9, 0xaff), (0xb01, 0xb03), (0xb05, 0xb0c),
   (0xb0f, 0xb10), (0xb13, 0xb28), (0xb2a, 0xb30), (0xb32, 0xb33), (0xb35, 0xb39), (0xb3c, 0xb44),
   (0xb47, 0xb48), (0xb4b, 0xb4d), (0xb55, 0xb57), (0xb5f, 0xb63), (0xb66, 0xb77), (0xb82, 0xb83),
   (0xb85, 0xb8a), (0xb8e, 0xb90), (0xb92, 0xb95), (0xb99, 0xb9a), (0xb9c, 0xb9c), (0xb9e, 0xb9f),
   (0xba3, 0xba4), (0xba8, 0xbaa), (0xbae, 0xbb9), (0xbbe, 0xbc2), (0xbc6, 0xbc8), (0xbca, 0xbcd),
   (0xbd0, 0xbd0), (0xbd7, 0xbd7), (0xbe6, 0xbfa), (0xc00, 0xc0c), (0xc0e, 0xc10), (0xc12, 0xc28),
   (0xc2a, 0xc39), (0xc3c, 0xc44), (0xc46, 0xc48), (0xc4a, 0xc4d), (0xc55, 0xc56), (0xc58, 0xc5a),
   (0xc5c, 0xc5d), (0xc60, 0xc63), (0xc66, 0xc6f), (0xc77, 0xc8c), (0xc8e, 0xc90), (0xc92, 0xca8),
   (0xcaa, 0xcb3), (0xcb5, 0xcb9), (0xcbc, 0xcc4), (0xcc6, 0xcc8), (0xcca, 0xccd), (0xcd5, 0xcd6),
   (0xcdc, 0xcde), (0xce0, 0xce3), (0xce6, 0xcef), (0xcf1, 0xcf3), (0xd00, 0xd0c), (0xd0e, 0xd10),
   (0xd12, 0xd44), (0xd46, 0xd48), (0xd4a, 0xd4f), (0xd54, 0xd63), (0xd66, 0xd7f), (0xd81, 0xd83),
   (0xd85, 0xd96), (0xd9a, 0xdb1), (0xdb3, 0xdbb), (0xdbd, 0xdbd), (0xdc0, 0xdc6), (0xdca, 0xdca),
   (0xdcf, 0xdd4), (0xdd6, 0xdd6), (0xdd8, 0xddf), (0xde6, 0xdef), (0xdf2, 0xdf4), (0xe01, 0xe32),
   (0xe34, 0xe3a), (0xe3f, 0xe5b), (0xe81, 0xe82), (0xe84, 0xe84), (0xe86, 0xe8a), (0xe8c, 0xea3),
   (0xea5, 0xea5), (0xea7, 0xeb2), (0xeb4, 0xebd), (0xec0, 0xec4), (0xec6, 0xec6), (0xec8, 0xece),
   (0xed0, 0xed9), (0xede, 0xedf), (0xf00, 0xf0b), (0xf0d, 0xf42), (0xf44, 0xf47), (0xf49, 0xf4c),
   (0xf4e, 0xf51), (0xf53, 0xf56), (0xf58, 0xf5b), (0xf5d, 0xf68), (0xf6a, 0xf6c), (0xf71, 0xf72),
   (0xf74, 0xf74), (0xf7a, 0xf80), (0xf82, 0xf92), (0xf94, 0xf97), (0xf99, 0xf9c), (0xf9e, 0xfa1),
   (0xfa3, 0xfa6), (0xfa8, 0xfab), (0xfad, 0xfb8), (0xfba, 0xfbc), (0xfbe, 0xfcc), (0xfce, 0xfda),
   (0x1000, 0x109f), (0x10d0, 0x10fb), (0x10fd, 0x115e), (0x1161, 0x1248), (0x124a, 0x124d),
   (0x1250, 0x1256), (0x1258, 0x1258), (0x125a, 0x125d), (0x1260, 0x1288), (0x128a, 0x128d),
   (0x1290, 0x12b0), (0x12b2, 0x12b5), (0x12b8, 0x12be), (0x12c0, 0x12c0), (0x12c2, 0x12c5),
   (0x12c8, 0x12d6), (0x12d8, 0x1310), (0x1312, 0x1315), (0x1318, 0x135a), (0x135d, 0x137c),
   (0x1380, 0x1399), (0x13a0, 0x13f5), (0x1400, 0x167f), (0x1681, 0x169c), (0x16a0, 0x16f8),
   (0x1700, 0x1715), (0x171f, 0x1736), (0x1740, 0x1753), (0x1760, 0x176c), (0x176e, 0x1770),
   (0x1772, 0x1773), (0x1780, 0x17b3), (0x17b6, 0x17dd), (0x17e0, 0x17e9), (0x17f0, 0x17f9),
   (0x1800, 0x180a), (0x1810, 0x1819), (0x1820, 0x1878), (0x1880, 0x18aa), (0x18b0, 0x18f5),
   (0x1900, 0x191e), (0x1920, 0x192b), (0x1930, 0x193b), (0x1940, 0x1940), (0x1944, 0x196d),
   (0x1970, 0x1974), (0x1980, 0x19ab), (0x19b0, 0x19c9), (0x19d0, 0x19da), (0x19de, 0x1a1b),
   (0x1a1e, 0x1a5e), (0x1a60, 0x1a7c), (0x1a7f, 0x1a89), (0x1a90, 0x1a99), (0x1aa0, 0x1aad),
   (0x1ab0, 0x1add), (0x1ae0, 0x1aeb), (0x1b00, 0x1b4c), (0x1b4e, 0x1bf3), (0x1bfc, 0x1c37),
   (0x1c3b, 0x1c49), (0x1c4d, 0x1c7f), (0x1c8a, 0x1c8a), (0x1cc0, 0x1cc7), (0x1cd0, 0x1cfa),
   (0x1d00, 0x1d2b), (0x1d2f, 0x1d2f), (0x1d3b, 0x1d3b), (0x1d4e, 0x1d4e), (0x1d6b, 0x1d77),
   (0x1d79, 0x1d9a), (0x1dc0, 0x1dff), (0x1e01, 0x1e01), (0x1e03, 0x1e03), (0x1e05, 0x1e05),
   (0x1e07, 0x1e07), (0x1e09, 0x1e09), (0x1e0b, 0x1e0b), (0x1e0d, 0x1e0d), (0x1e0f, 0x1e0f),
   (0x1e11, 0x1e11), (0x1e13, 0x1e13), (0x1e15, 0x1e15), (0x1e17, 0x1e17), (0x1e19, 0x1e19),
   (0x1e1b, 0x1e1b), (0x1e1d, 0x1e1d), (0x1e1f, 0x1e1f), (0x1e21, 0x1e21), (0x1e23, 0x1e23),
   (0x1e25, 0x1e25), (0x1e27, 0x1e27), (0x1e29, 0x1e29), (0x1e2b, 0x1e2b), (0x1e2d, 0x1e2d),
   (0x1e2f, 0x1e2f), (0x1e31, 0x1e31), (0x1e33, 0x1e33), (0x1e35, 0x1e35), (0x1e37, 0x1e37),
   (0x1e39, 0x1e39), (0x1e3b, 0x1e3b), (0x1e3d, 0x1e3d), (0x1e3f, 0x1e3f), (0x1e41, 0x1e41),
   (0x1e43, 0x1e43), (0x1e45, 0x1e45), (0x1e47, 0x1e47), (0x1e49, 0x1e49), (0x1e4b, 0x1e4b),
   (0x1e4d, 0x1e4d), (0x1e4f, 0x1e4f), (0x1e51, 0x1e51), (0x1e53, 0x1e53), (0x1e55, 0x1e55),
   (0x1e57, 0x1e57), (0x1e59, 0x1e59), (0x1e5b, 0x1e5b), (0x1e5d, 0x1e5d), (0x1e5f, 0x1e5f),
   (0x1e61, 0x1e61), (0x1e63, 0x1e63), (0x1e65, 0x1e65), (0x1e67, 0x1e67), (0x1e69, 0x1e69),
   (0x1e6b, 0x1e6b), (0x1e6d, 0x1e6d), (0x1e6f, 0x1e6f), (0x1e71, 0x1e71), (0x1e73, 0x1e73),
   (0x1e75, 0x1e75), (0x1e77, 0x1e77), (0x1e79, 0x1e79), (0x1e7b, 0x1e7b), (0x1e7d, 0x1e7d),
   (0x1e7f, 0x1e7f), (0x1e81, 0x1e81), (0x1e83, 0x1e83), (0x1e85, 0x1e85), (0x1e87, 0x1e87),
   (0x1e89, 0x1e89), (0x1e8b, 0x1e8b), (0x1e8d, 0x1e8d), (0x1e8f, 0x1e8f), (0x1e91, 0x1e91),
   (0x1e93, 0x1e93), (0x1e95, 0x1e99), (0x1e9c, 0x1e9d), (0x1e9f, 0x1e9f), (0x1ea1, 0x1ea1),
   (0x1ea3, 0x1ea3), (0x1ea5, 0x1ea5), (0x1ea7, 0x1ea7), (0x1ea9, 0x1ea9), (0x1eab, 0x1eab),
   (0x1ead, 0x1ead), (0x1eaf, 0x1eaf), (0x1eb1, 0x1eb1), (0x1eb3, 0x1eb3), (0x1eb5, 0x1eb5),
   (0x1eb7, 0x1eb7), (0x1eb9, 0x1eb9), (0x1ebb, 0x1ebb), (0x1ebd, 0x1ebd), (0x1ebf, 0x1ebf),
   (0x1ec1, 0x1ec1), (0x1ec3, 0x1ec3), (0x1ec5, 0x1ec5), (0x1ec7, 0x1ec7), (0x1ec9, 0x1ec9),
   (0x1ecb, 0x1ecb), (0x1ecd, 0x1ecd), (0x1ecf, 0x1ecf), (0x1ed1, 0x1ed1), (0x1ed3, 0x1ed3),
   (0x1ed5, 0x1ed5), (0x1ed7, 0x1ed7), (0x1ed9, 0x1ed9), (0x1edb, 0x1edb), (0x1edd, 0x1edd),
   (0x1edf, 0x1edf), (0x1ee1, 0x1ee1), (0x1ee3, 0x1ee3), (0x1ee5, 0x1ee5), (0x1ee7, 0x1ee7),
   (0x1ee9, 0x1ee9), (0x1eeb, 0x1eeb), (0x1eed, 0x1eed), (0x1eef, 0x1eef), (0x1ef1, 0x1ef1),
   (0x1ef3, 0x1ef3), (0x1ef5, 0x1ef5), (0x1ef7, 0x1ef7), (0x1ef9, 0x1ef9), (0x1efb, 0x1efb),
   (0x1efd, 0x1efd), (0x1eff, 0x1f07), (0x1f10, 0x1f15), (0x1f20, 0x1f27), (0x1f30, 0x1f37),
   (0x1f40, 0x1f45), (0x1f50, 0x1f57), (0x1f60, 0x1f67), (0x1f70, 0x1f70), (0x1f72, 0x1f72),
   (0x1f74, 0x1f74), (0x1f76, 0x1f76), (0x1f78, 0x1f78), (0x1f7a, 0x1f7a), (0x1f7c, 0x1f7c),
   (0x1fb0, 0x1fb1), (0x1fb6, 0x1fb6), (0x1fc6, 0x1fc6), (0x1fd0, 0x1fd2), (0x1fd6, 0x1fd7),
   (0x1fe0, 0x1fe2), (0x1fe4, 0x1fe7), (0x1ff6, 0x1ff6)]

def plainSymbols : List (Nat × Nat) :=
  [(0x200c, 0x200d), (0x2010, 0x2010), (0x2012, 0x2016), (0x2018, 0x2023), (0x2027, 0x2027),
   (0x2030, 0x2032), (0x2035, 0x2035), (0x2038, 0x203b), (0x203d, 0x203d), (0x203f, 0x2046),
   (0x204a, 0x2056), (0x2058, 0x205e), (0x20a0, 0x20a7), (0x20a9, 0x20c1), (0x20d0, 0x20f0),
   (0x2104, 0x2104), (0x2108, 0x2108), (0x2114, 0x2114), (0x2117, 0x2118), (0x211e, 0x211f),
   (0x2123, 0x2123), (0x2125, 0x2125), (0x2127, 0x2127), (0x2129, 0x2129), (0x212e, 0x212e),
   (0x213a, 0x213a), (0x2141, 0x2144), (0x214a, 0x214f), (0x2180, 0x2182), (0x2184, 0x2188),
   (0x218a, 0x218b), (0x2190, 0x222b), (0x222e, 0x222e), (0x2231, 0x2328), (0x232b, 0x2429),
   (0x2440, 0x244a), (0x24eb, 0x2a0b), (0x2a0d, 0x2a73), (0x2a77, 0x2adb), (0x2add, 0x2b73),
   (0x2b76, 0x2bff), (0x2c30, 0x2c5f), (0x2c61, 0x2c61), (0x2c65, 0x2c66), (0x2c68, 0x2c68),
   (0x2c6a, 0x2c6a), (0x2c6c, 0x2c6c), (0x2c71, 0x2c71), (0x2c73, 0x2c74), (0x2c76, 0x2c7b),
   (0x2c81, 0x2c81), (0x2c83, 0x2c83), (0x2c85, 0x2c85), (0x2c87, 0x2c87), (0x2c89, 0x2c89),
   (0x2c8b, 0x2c8b), (0x2c8d, 0x2c8d), (0x2c8f, 0x2c8f), (0x2c91, 0x2c91), (0x2c93, 0x2c93),
   (0x2c95, 0x2c95), (0x2c97, 0x2c97), (0x2c99, 0x2c99), (0x2c9b, 0x2c9b), (0x2c9d, 0x2c9d),
   (0x2c9f, 0x2c9f), (0x2ca1, 0x2ca1), (0x2ca3, 0x2ca3), (0x2ca5, 0x2ca5), (0x2ca7, 0x2ca7),
   (0x2ca9, 0x2ca9), (0x2cab, 0x2cab), (0x2cad, 0x2cad), (0x2caf, 0x2caf), (0x2cb1, 0x2cb1),
   (0x2cb3, 0x2cb3), (0x2cb5, 0x2cb5), (0x2cb7, 0x2cb7), (0x2cb9, 0x2cb9), (0x2cbb, 0x2cbb),
   (0x2cbd, 0x2cbd), (0x2cbf, 0x2cbf), (0x2cc1, 0x2cc1), (0x2cc3, 0x2cc3), (0x2cc5, 0x2cc5),
   (0x2cc7, 0x2cc7), (0x2cc9, 0x2cc9), (0x2ccb, 0x2ccb), (0x2ccd, 0x2ccd), (0x2ccf, 0x2ccf),
   (0x2cd1, 0x2cd1), (0x2cd3, 0x2cd3), (0x2cd5, 0x2cd5), (0x2cd7, 0x2cd7), (0x2cd9, 0x2cd9),
   (0x2cdb, 0x2cdb), (0x2cdd, 0x2cdd), (0x2cdf, 0x2cdf), (0x2ce1, 0x2ce1), (0x2ce3, 0x2cea),
   (0x2cec, 0x2cec), (0x2cee, 0x2cf1), (0x2cf3, 0x2cf3), (0x2cf9, 0x2d25), (0x2d27, 0x2d27),
   (0x2d2d, 0x2d2d), (0x2d30, 0x2d67), (0x2d70, 0x2d70), (0x2d7f, 0x2d96), (0x2da0, 0x2da6),
   (0x2da8, 0x2dae), (0x2db0, 0x2db6), (0x2db8, 0x2dbe), (0x2dc0, 0x2dc6), (0x2dc8, 0x2dce),
   (0x2dd0, 0x2dd6), (0x2dd8, 0x2dde), (0x2de0, 0x2e5d), (0x2e80, 0x2e99), (0x2e9b, 0x2e9e),
   (0x2ea0, 0x2ef2), (0x3001, 0x3001), (0x3003, 0x3035), (0x3037, 0x3037), (0x303b, 0x303f),
   (0x3041, 0x3096), (0x3099, 0x309a), (0x309d, 0x309e), (0x30a0, 0x30fe), (0x3105, 0x312f),
   (0x3190, 0x3191), (0x31a0, 0x31e5), (0x31f0, 0x31ff), (0x3248, 0x324f), (0x327f, 0x327f),
   (0x3400, 0xa48c), (0xa490, 0xa4c6), (0xa4d0, 0xa62b), (0xa641, 0xa641), (0xa643, 0xa643),
   (0xa645, 0xa645), (0xa647, 0xa647), (0xa649, 0xa649), (0xa64b, 0xa64b), (0xa64d, 0xa64d),
   (0xa64f, 0xa64f), (0xa651, 0xa651), (0xa653, 0xa653), (0xa655, 0xa655), (0xa657, 0xa657),
   (0xa659, 0xa659), (0xa65b, 0xa65b), (0xa65d, 0xa65d), (0xa65f, 0xa65f), (0xa661, 0xa661),
   (0xa663, 0xa663), (0xa665, 0xa665), (0xa667, 0xa667), (0xa669, 0xa669), (0xa66b, 0xa66b),
   (0xa66d, 0xa67f), (0xa681, 0xa681), (0xa683, 0xa683), (0xa685, 0xa685), (0xa687, 0xa687),
   (0xa689, 0xa689), (0xa68b, 0xa68b), (0xa68d, 0xa68d), (0xa68f, 0xa68f), (0xa691, 0xa691),
   (0xa693, 0xa693), (0xa695, 0xa695), (0xa697, 0xa697), (0xa699, 0xa699), (0xa69b, 0xa69b),
   (0xa69e, 0xa6f7), (0xa700, 0xa721), (0xa723, 0xa723), (0xa725, 0xa725), (0xa727, 0xa727),
   (0xa729, 0xa729), (0xa72b, 0xa72b), (0xa72d, 0xa72d), (0xa72f, 0xa731), (0xa733, 0xa733),
   (0xa735, 0xa735), (0xa737, 0xa737), (0xa739, 0xa739), (0xa73b, 0xa73b), (0xa73d, 0xa73d),
   (0xa73f, 0xa73f), (0xa741, 0xa741), (0xa743, 0xa743), (0xa745, 0xa745), (0xa747, 0xa747),
   (0xa749, 0xa749), (0xa74b, 0xa74b), (0xa74d, 0xa74d), (0xa74f, 0xa74f), (0xa751, 0xa751),
   (0xa753, 0xa753), (0xa755, 0xa755), (0xa757, 0xa757), (0xa759, 0xa759), (0xa75b, 0xa75b),
   (0xa75d, 0xa75d), (0xa75f, 0xa75f), (0xa761, 0xa761), (0xa763, 0xa763), (0xa765, 0xa765),
   (0xa767, 0xa767), (0xa769, 0xa769), (0xa76b, 0xa76b), (0xa76d, 0xa76d), (0xa76f, 0xa76f),
   (0xa771, 0xa778), (0xa77a, 0xa77a), (0xa77c, 0xa77c), (0xa77f, 0xa77f), (0xa781, 0xa781),
   (0xa783, 0xa783), (0xa785, 0xa785), (0xa787, 0xa78a), (0xa78c, 0xa78c), (0xa78e, 0xa78f),
   (0xa791, 0xa791), (0xa793, 0xa795), (0xa797, 0xa797), (0xa799, 0xa799), (0xa79b, 0xa79b),
   (0xa79d, 0xa79d), (0xa79f, 0xa79f), (0xa7a1, 0xa7a1), (0xa7a3, 0xa7a3), (0xa7a5, 0xa7a5),
   (0xa7a7, 0xa7a7), (0xa7a9, 0xa7a9), (0xa7af, 0xa7af), (0xa7b5, 0xa7b5), (0xa7b7, 0xa7b7),
   (0xa7b9, 0xa7b9), (0xa7bb, 0xa7bb), (0xa7bd, 0xa7bd), (0xa7bf, 0xa7bf), (0xa7c1, 0xa7c1),
   (0xa7c3, 0xa7c3), (0xa7c8, 0xa7c8), (0xa7ca, 0xa7ca), (0xa7cd, 0xa7cd), (0xa7cf, 0xa7cf),
   (0xa7d1, 0xa7d1), (0xa7d3, 0xa7d3), (0xa7d5, 0xa7d5), (0xa7d7, 0xa7d7), (0xa7d9, 0xa7d9),
   (0xa7db, 0xa7db), (0xa7f6, 0xa7f7), (0xa7fa, 0xa82c), (0xa830, 0xa839), (0xa840, 0xa877),
   (0xa880, 0xa8c5), (0xa8ce, 0xa8d9), (0xa8e0, 0xa953), (0xa95f, 0xa97c), (0xa980, 0xa9cd),
   (0xa9cf, 0xa9d9), (0xa9de, 0xa9fe), (0xaa00, 0xaa36), (0xaa40, 0xaa4d), (0xaa50, 0xaa59),
   (0xaa5c, 0xaac2), (0xaadb, 0xaaf6), (0xab01, 0xab06), (0xab09, 0xab0e), (0xab11, 0xab16),
   (0xab20, 0xab26), (0xab28, 0xab2e), (0xab30, 0xab5b), (0xab60, 0xab68), (0xab6a, 0xab6b),
   (0xabc0, 0xabed), (0xabf0, 0xabf9), (0xac00, 0xd7a3), (0xd7b0, 0xd7c6), (0xd7cb, 0xd7fb),
   (0xfa0e, 0xfa0f), (0xfa11, 0xfa11), (0xfa13, 0xfa14), (0xfa1f, 0xfa1f), (0xfa21, 0xfa21),
   (0xfa23, 0xfa24), (0xfa27, 0xfa29), (0xfb1e, 0xfb1e), (0xfbb2, 0xfbd2), (0xfd3e, 0xfd4f),
   (0xfd90, 0xfd91), (0xfdc8, 0xfdcf), (0xfdfd, 0xfdff), (0xfe20, 0xfe2f), (0xfe45, 0xfe46),
   (0xfe73, 0xfe73), (0x10000, 0x1000b), (0x1000d, 0x10026), (0x10028, 0x1003a), (0x1003c, 0x1003d),
   (0x1003f, 0x1004d), (0x10050, 0x1005d), (0x10080, 0x100fa), (0x10100, 0x10102),
   (0x10107, 0x10133), (0x10137, 0x1018e), (0x10190, 0x1019c), (0x101a0, 0x101a0),
   (0x101d0, 0x101fd), (0x10280, 0x1029c), (0x102a0, 0x102d0), (0x102e0, 0x102fb),
   (0x10300, 0x10323), (0x1032d, 0x1034a), (0x10350, 0x1037a), (0x10380, 0x1039d),
   (0x1039f, 0x103c3), (0x103c8, 0x103d5), (0x10428, 0x1049d), (0x104a0, 0x104a9),
   (0x104d8, 0x104fb), (0x10500, 0x10527), (0x10530, 0x10563), (0x1056f, 0x1056f),
   (0x10597, 0x105a1), (0x105a3, 0x105b1), (0x105b3, 0x105b9), (0x105bb, 0x105bc),
   (0x105c0, 0x105f3), (0x10600, 0x10736), (0x10740, 0x10755), (0x10760, 0x10767),
   (0x10780, 0x10780), (0x10800, 0x10805), (0x10808, 0x10808), (0x1080a, 0x10835),
   (0x10837, 0x10838), (0x1083c, 0x1083c), (0x1083f, 0x10855), (0x10857, 0x1089e),
   (0x108a7, 0x108af), (0x108e0, 0x108f2), (0x108f4, 0x108f5), (0x108fb, 0x1091b),
   (0x1091f, 0x10939), (0x1093f, 0x10959), (0x10980, 0x109b7), (0x109bc, 0x109cf),
   (0x109d2, 0x10a03), (0x10a05, 0x10a06), (0x10a0c, 0x10a13), (0x10a15, 0x10a17),
   (0x10a19, 0x10a35), (0x10a38, 0x10a3a), (0x10a3f, 0x10a48), (0x10a50, 0x10a58),
   (0x10a60, 0x10a9f), (0x10ac0, 0x10ae6), (0x10aeb, 0x10af6), (0x10b00, 0x10b35),
   (0x10b39, 0x10b55), (0x10b58, 0x10b72), (0x10b78, 0x10b91), (0x10b99, 0x10b9c),
   (0x10ba9, 0x10baf), (0x10c00, 0x10c48), (0x10cc0, 0x10cf2), (0x10cfa, 0x10d27),
   (0x10d30, 0x10d39), (0x10d40, 0x10d4f), (0x10d69, 0x10d85), (0x10d8e, 0x10d8f),
   (0x10e60, 0x10e7e), (0x10e80, 0x10ea9), (0x10eab, 0x10ead), (0x10eb0, 0x10eb1),
   (0x10ec2, 0x10ec7), (0x10ed0, 0x10ed8), (0x10efa, 0x10f27), (0x10f30, 0x10f59),
   (0x10f70, 0x10f89), (0x10fb0, 0x10fcb), (0x10fe0, 0x10ff6), (0x11000, 0x1104d),
   (0x11052, 0x11075), (0x1107f, 0x110bc), (0x110be, 0x110c2), (0x110d0, 0x110e8),
   (0x110f0, 0x110f9), (0x11100, 0x11134), (0x11136, 0x11147), (0x11150, 0x11176),
   (0x11180, 0x111df), (0x111e1, 0x111f4), (0x11200, 0x11211), (0x11213, 0x11241),
   (0x11280, 0x11286), (0x11288, 0x11288), (0x1128a, 0x1128d), (0x1128f, 0x1129d),
   (0x1129f, 0x112a9), (0x112b0, 0x112ea), (0x112f0, 0x112f9), (0x11300, 0x11303),
   (0x11305, 0x1130c), (0x1130f, 0x11310), (0x11313, 0x11328), (0x1132a, 0x11330),
   (0x11332, 0x11333), (0x11335, 0x11339), (0x1133b, 0x11344), (0x11347, 0x11348),
   (0x1134b, 0x1134d), (0x11350, 0x11350), (0x11357, 0x11357), (0x1135d, 0x11363),
   (0x11366, 0x1136c), (0x11370, 0x11374), (0x11380, 0x11389), (0x1138b, 0x1138b),
   (0x1138e, 0x1138e), (0x11390, 0x113b5), (0x113b7, 0x113c0), (0x113c2, 0x113c2),
   (0x113c5, 0x113c5), (0x113c7, 0x113ca), (0x113cc, 0x113d5), (0x113d7, 0x113d8),
   (0x113e1, 0x113e2), (0x11400, 0x1145b), (0x1145d, 0x11461), (0x11480, 0x114c7),
   (0x114d0, 0x114d9), (0x11580, 0x115b5), (0x115b8, 0x115dd), (0x11600, 0x11644),
   (0x11650, 0x11659), (0x11660, 0x1166c), (0x11680, 0x116b9), (0x116c0, 0x116c9),
   (0x116d0, 0x116e3), (0x11700, 0x1171a), (0x1171d, 0x1172b), (0x11730, 0x11746),
   (0x11800, 0x1183b), (0x118c0, 0x118f2), (0x118ff, 0x11906), (0x11909, 0x11909),
   (0x1190c, 0x11913), (0x11915, 0x11916), (0x11918, 0x11935), (0x11937, 0x11938),
   (0x1193b, 0x11946), (0x11950, 0x11959), (0x119a0, 0x119a7), (0x119aa, 0x119d7),
   (0x119da, 0x119e4), (0x11a00, 0x11a47), (0x11a50, 0x11aa2), (0x11ab0, 0x11af8),
   (0x11b00, 0x11b09), (0x11b60, 0x11b67), (0x11bc0, 0x11be1), (0x11bf0, 0x11bf9),
   (0x11c00, 0x11c08), (0x11c0a, 0x11c36), (0x11c38, 0x11c45), (0x11c50, 0x11c6c),
   (0x11c70, 0x11c8f), (0x11c92, 0x11ca7), (0x11ca9, 0x11cb6), (0x11d00, 0x11d06),
   (0x11d08, 0x11d09), (0x11d0b, 0x11d36), (0x11d3a, 0x11d3a), (0x11d3c, 0x11d3d),
   (0x11d3f, 0x11d47), (0x11d50, 0x11d59), (0x11d60, 0x11d65), (0x11d67, 0x11d68),
   (0x11d6a, 0x11d8e), (0x11d90, 0x11d91), (0x11d93, 0x11d98), (0x11da0, 0x11da9),
   (0x11db0, 0x11ddb), (0x11de0, 0x11de9), (0x11ee0, 0x11ef8), (0x11f00, 0x11f10),
   (0x11f12, 0x11f3a), (0x11f3e, 0x11f5a), (0x11fb0, 0x11fb0), (0x11fc0, 0x11ff1),
   (0x11fff, 0x12399), (0x12400, 0x1246e), (0x12470, 0x12474), (0x12480, 0x12543),
   (0x12f90, 0x12ff2), (0x13000, 0x1342f), (0x13440, 0x13455), (0x13460, 0x143fa),
   (0x14400, 0x14646), (0x16100, 0x16139), (0x16800, 0x16a38), (0x16a40, 0x16a5e),
   (0x16a60, 0x16a69), (0x16a6e, 0x16abe), (0x16ac0, 0x16ac9), (0x16ad0, 0x16aed),
   (0x16af0, 0x16af5), (0x16b00, 0x16b45), (0x16b50, 0x16b59), (0x16b5b, 0x16b61),
   (0x16b63, 0x16b77), (0x16b7d, 0x16b8f), (0x16d40, 0x16d79), (0x16e60, 0x16e9a),
   (0x16ebb, 0x16ed3), (0x16f00, 0x16f4a), (0x16f4f, 0x16f87), (0x16f8f, 0x16f9f),
   (0x16fe0, 0x16fe4), (0x16ff0, 0x16ff6), (0x17000, 0x18cd5), (0x18cff, 0x18d1e),
   (0x18d80, 0x18df2), (0x1aff0, 0x1aff3), (0x1aff5, 0x1affb), (0x1affd, 0x1affe),
   (0x1b000, 0x1b122), (0x1b132, 0x1b132), (0x1b150, 0x1b152), (0x1b155, 0x1b155),
   (0x1b164, 0x1b167), (0x1b170, 0x1b2fb), (0x1bc00, 0x1bc6a), (0x1bc70, 0x1bc7c),
   (0x1bc80, 0x1bc88), (0x1bc90, 0x1bc99), (0x1bc9c, 0x1bc9f), (0x1cc00, 0x1ccd5),
   (0x1ccfa, 0x1ccfc), (0x1cd00, 0x1ceb3), (0x1ceba, 0x1ced0), (0x1cee0, 0x1cef0),
   (0x1cf00, 0x1cf2d), (0x1cf30, 0x1cf46), (0x1cf50, 0x1cfc3), (0x1d000, 0x1d0f5),
   (0x1d100, 0x1d126), (0x1d129, 0x1d15d), (0x1d165, 0x1d172), (0x1d17b, 0x1d1ba),
   (0x1d1c1, 0x1d1ea), (0x1d200, 0x1d245), (0x1d2c0, 0x1d2d3), (0x1d2e0, 0x1d2f3),
   (0x1d300, 0x1d356), (0x1d360, 0x1d378), (0x1d800, 0x1da8b), (0x1da9b, 0x1da9f),
   (0x1daa1, 0x1daaf), (0x1df00, 0x1df1e), (0x1df25, 0x1df2a), (0x1e000, 0x1e006),
   (0x1e008, 0x1e018), (0x1e01b, 0x1e021), (0x1e023, 0x1e024), (0x1e026, 0x1e02a),
   (0x1e08f, 0x1e08f), (0x1e100, 0x1e12c), (0x1e130, 0x1e13d), (0x1e140, 0x1e149),
   (0x1e14e, 0x1e14f), (0x1e290, 0x1e2ae), (0x1e2c0, 0x1e2f9), (0x1e2ff, 0x1e2ff),
   (0x1e4d0, 0x1e4f9), (0x1e5d0, 0x1e5fa), (0x1e5ff, 0x1e5ff), (0x1e6c0, 0x1e6de),
   (0x1e6e0, 0x1e6f5), (0x1e6fe, 0x1e6ff), (0x1e7e0, 0x1e7e6), (0x1e7e8, 0x1e7eb),
   (0x1e7ed, 0x1e7ee), (0x1e7f0, 0x1e7fe), (0x1e800, 0x1e8c4), (0x1e8c7, 0x1e8d6),
   (0x1e922, 0x1e94b), (0x1e950, 0x1e959), (0x1e95e, 0x1e95f), (0x1ec71, 0x1ecb4),
   (0x1ed01, 0x1ed3d), (0x1eef0, 0x1eef1), (0x1f000, 0x1f02b), (0x1f030, 0x1f093),
   (0x1f0a0, 0x1f0ae), (0x1f0b1, 0x1f0bf), (0x1f0c1, 0x1f0cf), (0x1f0d1, 0x1f0f5),
   (0x1f10b, 0x1f10f), (0x1f12f, 0x1f12f), (0x1f150, 0x1f169), (0x1f16d, 0x1f18f),
   (0x1f191, 0x1f1ad), (0x1f1e6, 0x1f1ff), (0x1f260, 0x1f265), (0x1f300, 0x1f6d8),
   (0x1f6dc, 0x1f6ec), (0x1f6f0, 0x1f6fc), (0x1f700, 0x1f7d9), (0x1f7e0, 0x1f7eb),
   (0x1f7f0, 0x1f7f0), (0x1f800, 0x1f80b), (0x1f810, 0x1f847), (0x1f850, 0x1f859),
   (0x1f860, 0x1f887), (0x1f890, 0x1f8ad), (0x1f8b0, 0x1f8bb), (0x1f8c0, 0x1f8c1),
   (0x1f8d0, 0x1f8d8), (0x1f900, 0x1fa57), (0x1fa60, 0x1fa6d), (0x1fa70, 0x1fa7c),
   (0x1fa80, 0x1fa8a), (0x1fa8e, 0x1fac6), (0x1fac8, 0x1fac8), (0x1facd, 0x1fadc),
   (0x1fadf, 0x1faea), (0x1faef, 0x1faf8), (0x1fb00, 0x1fb92), (0x1fb94, 0x1fbef),
   (0x1fbfa, 0x1fbfa), (0x20000, 0x2a6df), (0x2a700, 0x2b81d), (0x2b820, 0x2cead),
   (0x2ceb0, 0x2ebe0), (0x2ebf0, 0x2ee5d), (0x30000, 0x3134a), (0x31350, 0x33479)]

def ignoredRanges : List (Nat × Nat) :=
  [(0xad, 0xad), (0x34f, 0x34f), (0x115f, 0x1160), (0x17b4, 0x17b5), (0x180b, 0x180f),
   (0x200b, 0x200b), (0x2060, 0x2064), (0x206a, 0x206f), (0x3164, 0x3164), (0xfe00, 0xfe0f),
   (0xfeff, 0xfeff), (0xffa0, 0xffa0), (0x1bca0, 0x1bca3), (0x1d173, 0x1d17a), (0xe0100, 0xe01ef)]

/--
Characters from `first` to `last` in steps of `step`, which stand for characters from `target` on in
steps of `targetStep`.
-/
structure Substitution where
  first : Nat
  last : Nat
  step : Nat
  target : Nat
  targetStep : Nat

def substitutions : List Substitution :=
  [⟨0x41, 0x5a, 1, 0x61, 1⟩, ⟨0xc0, 0xd6, 1, 0xe0, 1⟩, ⟨0xd8, 0xde, 1, 0xf8, 1⟩,
   ⟨0x100, 0x12e, 2, 0x101, 2⟩, ⟨0x139, 0x13d, 2, 0x13a, 2⟩, ⟨0x141, 0x147, 2, 0x142, 2⟩,
   ⟨0x14a, 0x176, 2, 0x14b, 2⟩, ⟨0x179, 0x17d, 2, 0x17a, 2⟩, ⟨0x1a0, 0x1a4, 2, 0x1a1, 2⟩,
   ⟨0x1cd, 0x1db, 2, 0x1ce, 2⟩, ⟨0x1de, 0x1ee, 2, 0x1df, 2⟩, ⟨0x1f8, 0x21e, 2, 0x1f9, 2⟩,
   ⟨0x222, 0x232, 2, 0x223, 2⟩, ⟨0x246, 0x24e, 2, 0x247, 2⟩, ⟨0x388, 0x38a, 1, 0x3ad, 1⟩,
   ⟨0x391, 0x3a1, 1, 0x3b1, 1⟩, ⟨0x3a3, 0x3ab, 1, 0x3c3, 1⟩, ⟨0x3d8, 0x3ee, 2, 0x3d9, 2⟩,
   ⟨0x3fd, 0x3ff, 1, 0x37b, 1⟩, ⟨0x400, 0x40f, 1, 0x450, 1⟩, ⟨0x410, 0x42f, 1, 0x430, 1⟩,
   ⟨0x460, 0x480, 2, 0x461, 2⟩, ⟨0x48a, 0x4be, 2, 0x48b, 2⟩, ⟨0x4c1, 0x4cd, 2, 0x4c2, 2⟩,
   ⟨0x4d0, 0x52e, 2, 0x4d1, 2⟩, ⟨0x531, 0x556, 1, 0x561, 1⟩, ⟨0x10a0, 0x10c5, 1, 0x2d00, 1⟩,
   ⟨0x13f8, 0x13fd, 1, 0x13f0, 1⟩, ⟨0x1c90, 0x1cba, 1, 0x10d0, 1⟩, ⟨0x1cbd, 0x1cbf, 1, 0x10fd, 1⟩,
   ⟨0x1d33, 0x1d3a, 1, 0x67, 1⟩, ⟨0x1d3e, 0x1d40, 1, 0x70, 2⟩, ⟨0x1d5d, 0x1d5f, 1, 0x3b2, 1⟩,
   ⟨0x1da4, 0x1da6, 1, 0x268, 1⟩, ⟨0x1daf, 0x1db1, 1, 0x273, 1⟩, ⟨0x1dbc, 0x1dbe, 1, 0x290, 1⟩,
   ⟨0x1e00, 0x1e94, 2, 0x1e01, 2⟩, ⟨0x1ea0, 0x1efe, 2, 0x1ea1, 2⟩, ⟨0x1f08, 0x1f0f, 1, 0x1f00, 1⟩,
   ⟨0x1f18, 0x1f1d, 1, 0x1f10, 1⟩, ⟨0x1f28, 0x1f2f, 1, 0x1f20, 1⟩, ⟨0x1f38, 0x1f3f, 1, 0x1f30, 1⟩,
   ⟨0x1f48, 0x1f4d, 1, 0x1f40, 1⟩, ⟨0x1f59, 0x1f5f, 2, 0x1f51, 2⟩, ⟨0x1f68, 0x1f6f, 1, 0x1f60, 1⟩,
   ⟨0x2074, 0x2079, 1, 0x34, 1⟩, ⟨0x2080, 0x2089, 1, 0x30, 1⟩, ⟨0x2096, 0x2099, 1, 0x6b, 1⟩,
   ⟨0x210c, 0x210e, 1, 0x68, 0⟩, ⟨0x2119, 0x211b, 1, 0x70, 1⟩, ⟨0x2135, 0x2138, 1, 0x5d0, 1⟩,
   ⟨0x2460, 0x2468, 1, 0x31, 1⟩, ⟨0x24b6, 0x24cf, 1, 0x61, 1⟩, ⟨0x24d0, 0x24e9, 1, 0x61, 1⟩,
   ⟨0x2c00, 0x2c2f, 1, 0x2c30, 1⟩, ⟨0x2c67, 0x2c6b, 2, 0x2c68, 2⟩, ⟨0x2c80, 0x2ce2, 2, 0x2c81, 2⟩,
   ⟨0x3137, 0x3139, 1, 0x1103, 1⟩, ⟨0x313a, 0x313f, 1, 0x11b0, 1⟩, ⟨0x3141, 0x3143, 1, 0x1106, 1⟩,
   ⟨0x3145, 0x314e, 1, 0x1109, 1⟩, ⟨0x314f, 0x3163, 1, 0x1161, 1⟩, ⟨0x3176, 0x3178, 1, 0x1127, 2⟩,
   ⟨0x3179, 0x317c, 1, 0x112c, 1⟩, ⟨0x3184, 0x3186, 1, 0x1157, 1⟩, ⟨0x326a, 0x326d, 1, 0x110f, 1⟩,
   ⟨0x32d0, 0x32d4, 1, 0x30a2, 2⟩, ⟨0x32d5, 0x32e0, 1, 0x30ab, 2⟩, ⟨0x32e1, 0x32e4, 1, 0x30c4, 2⟩,
   ⟨0x32e5, 0x32e9, 1, 0x30cb, 1⟩, ⟨0x32ee, 0x32f2, 1, 0x30de, 1⟩, ⟨0x32f3, 0x32f5, 1, 0x30e4, 2⟩,
   ⟨0x32f6, 0x32fa, 1, 0x30e9, 1⟩, ⟨0x32fb, 0x32fe, 1, 0x30ef, 1⟩, ⟨0xa640, 0xa66c, 2, 0xa641, 2⟩,
   ⟨0xa680, 0xa69a, 2, 0xa681, 2⟩, ⟨0xa722, 0xa72e, 2, 0xa723, 2⟩, ⟨0xa732, 0xa76e, 2, 0xa733, 2⟩,
   ⟨0xa77e, 0xa786, 2, 0xa77f, 2⟩, ⟨0xa796, 0xa7a8, 2, 0xa797, 2⟩, ⟨0xa7b4, 0xa7c2, 2, 0xa7b5, 2⟩,
   ⟨0xa7cc, 0xa7da, 2, 0xa7cd, 2⟩, ⟨0xab70, 0xabbf, 1, 0x13a0, 1⟩, ⟨0xfb24, 0xfb26, 1, 0x5db, 1⟩,
   ⟨0xfb52, 0xfb55, 1, 0x67b, 0⟩, ⟨0xfb56, 0xfb59, 1, 0x67e, 0⟩, ⟨0xfb5a, 0xfb5d, 1, 0x680, 0⟩,
   ⟨0xfb5e, 0xfb61, 1, 0x67a, 0⟩, ⟨0xfb62, 0xfb65, 1, 0x67f, 0⟩, ⟨0xfb66, 0xfb69, 1, 0x679, 0⟩,
   ⟨0xfb6a, 0xfb6d, 1, 0x6a4, 0⟩, ⟨0xfb6e, 0xfb71, 1, 0x6a6, 0⟩, ⟨0xfb72, 0xfb75, 1, 0x684, 0⟩,
   ⟨0xfb76, 0xfb79, 1, 0x683, 0⟩, ⟨0xfb7a, 0xfb7d, 1, 0x686, 0⟩, ⟨0xfb7e, 0xfb81, 1, 0x687, 0⟩,
   ⟨0xfb8e, 0xfb91, 1, 0x6a9, 0⟩, ⟨0xfb92, 0xfb95, 1, 0x6af, 0⟩, ⟨0xfb96, 0xfb99, 1, 0x6b3, 0⟩,
   ⟨0xfb9a, 0xfb9d, 1, 0x6b1, 0⟩, ⟨0xfba0, 0xfba3, 1, 0x6bb, 0⟩, ⟨0xfba6, 0xfba9, 1, 0x6c1, 0⟩,
   ⟨0xfbaa, 0xfbad, 1, 0x6be, 0⟩, ⟨0xfbd3, 0xfbd6, 1, 0x6ad, 0⟩, ⟨0xfbe4, 0xfbe7, 1, 0x6d0, 0⟩,
   ⟨0xfbfc, 0xfbff, 1, 0x6cc, 0⟩, ⟨0xfe41, 0xfe44, 1, 0x300c, 1⟩, ⟨0xfe4d, 0xfe4f, 1, 0x5f, 0⟩,
   ⟨0xfe8a, 0xfe8c, 1, 0x626, 0⟩, ⟨0xfe8f, 0xfe92, 1, 0x628, 0⟩, ⟨0xfe95, 0xfe98, 1, 0x62a, 0⟩,
   ⟨0xfe99, 0xfe9c, 1, 0x62b, 0⟩, ⟨0xfe9d, 0xfea0, 1, 0x62c, 0⟩, ⟨0xfea1, 0xfea4, 1, 0x62d, 0⟩,
   ⟨0xfea5, 0xfea8, 1, 0x62e, 0⟩, ⟨0xfeb1, 0xfeb4, 1, 0x633, 0⟩, ⟨0xfeb5, 0xfeb8, 1, 0x634, 0⟩,
   ⟨0xfeb9, 0xfebc, 1, 0x635, 0⟩, ⟨0xfebd, 0xfec0, 1, 0x636, 0⟩, ⟨0xfec1, 0xfec4, 1, 0x637, 0⟩,
   ⟨0xfec5, 0xfec8, 1, 0x638, 0⟩, ⟨0xfec9, 0xfecc, 1, 0x639, 0⟩, ⟨0xfecd, 0xfed0, 1, 0x63a, 0⟩,
   ⟨0xfed1, 0xfed4, 1, 0x641, 0⟩, ⟨0xfed5, 0xfed8, 1, 0x642, 0⟩, ⟨0xfed9, 0xfedc, 1, 0x643, 0⟩,
   ⟨0xfedd, 0xfee0, 1, 0x644, 0⟩, ⟨0xfee1, 0xfee4, 1, 0x645, 0⟩, ⟨0xfee5, 0xfee8, 1, 0x646, 0⟩,
   ⟨0xfee9, 0xfeec, 1, 0x647, 0⟩, ⟨0xfef1, 0xfef4, 1, 0x64a, 0⟩, ⟨0xff07, 0xff0e, 1, 0x27, 1⟩,
   ⟨0xff10, 0xff19, 1, 0x30, 1⟩, ⟨0xff1b, 0xff1e, 1, 0x3b, 1⟩, ⟨0xff21, 0xff3a, 1, 0x61, 1⟩,
   ⟨0xff3f, 0xff5b, 1, 0x5f, 1⟩, ⟨0xff67, 0xff6b, 1, 0x30a1, 2⟩, ⟨0xff6c, 0xff6e, 1, 0x30e3, 2⟩,
   ⟨0xff71, 0xff75, 1, 0x30a2, 2⟩, ⟨0xff76, 0xff81, 1, 0x30ab, 2⟩, ⟨0xff82, 0xff85, 1, 0x30c4, 2⟩,
   ⟨0xff86, 0xff8a, 1, 0x30cb, 1⟩, ⟨0xff8f, 0xff93, 1, 0x30de, 1⟩, ⟨0xff94, 0xff96, 1, 0x30e4, 2⟩,
   ⟨0xff97, 0xff9b, 1, 0x30e9, 1⟩, ⟨0xffa7, 0xffa9, 1, 0x1103, 1⟩, ⟨0xffaa, 0xffaf, 1, 0x11b0, 1⟩,
   ⟨0xffb1, 0xffb3, 1, 0x1106, 1⟩, ⟨0xffb5, 0xffbe, 1, 0x1109, 1⟩, ⟨0xffc2, 0xffc7, 1, 0x1161, 1⟩,
   ⟨0xffca, 0xffcf, 1, 0x1167, 1⟩, ⟨0xffd2, 0xffd7, 1, 0x116d, 1⟩, ⟨0xffda, 0xffdc, 1, 0x1173, 1⟩,
   ⟨0xffe9, 0xffec, 1, 0x2190, 1⟩, ⟨0x10400, 0x10427, 1, 0x10428, 1⟩,
   ⟨0x104b0, 0x104d3, 1, 0x104d8, 1⟩, ⟨0x10570, 0x1057a, 1, 0x10597, 1⟩,
   ⟨0x1057c, 0x1058a, 1, 0x105a3, 1⟩, ⟨0x1058c, 0x10592, 1, 0x105b3, 1⟩,
   ⟨0x107b6, 0x107b8, 1, 0x1c0, 1⟩, ⟨0x10c80, 0x10cb2, 1, 0x10cc0, 1⟩,
   ⟨0x10d50, 0x10d65, 1, 0x10d70, 1⟩, ⟨0x118a0, 0x118bf, 1, 0x118c0, 1⟩,
   ⟨0x16e40, 0x16e5f, 1, 0x16e60, 1⟩, ⟨0x16ea0, 0x16eb8, 1, 0x16ebb, 1⟩,
   ⟨0x1ccd6, 0x1ccef, 1, 0x61, 1⟩, ⟨0x1ccf0, 0x1ccf9, 1, 0x30, 1⟩, ⟨0x1d400, 0x1d419, 1, 0x61, 1⟩,
   ⟨0x1d41a, 0x1d433, 1, 0x61, 1⟩, ⟨0x1d434, 0x1d44d, 1, 0x61, 1⟩, ⟨0x1d44e, 0x1d454, 1, 0x61, 1⟩,
   ⟨0x1d456, 0x1d467, 1, 0x69, 1⟩, ⟨0x1d468, 0x1d481, 1, 0x61, 1⟩, ⟨0x1d482, 0x1d49b, 1, 0x61, 1⟩,
   ⟨0x1d4a9, 0x1d4ac, 1, 0x6e, 1⟩, ⟨0x1d4ae, 0x1d4b5, 1, 0x73, 1⟩, ⟨0x1d4b6, 0x1d4b9, 1, 0x61, 1⟩,
   ⟨0x1d4be, 0x1d4c3, 1, 0x69, 1⟩, ⟨0x1d4c5, 0x1d4cf, 1, 0x70, 1⟩, ⟨0x1d4d0, 0x1d4e9, 1, 0x61, 1⟩,
   ⟨0x1d4ea, 0x1d503, 1, 0x61, 1⟩, ⟨0x1d507, 0x1d50a, 1, 0x64, 1⟩, ⟨0x1d50d, 0x1d514, 1, 0x6a, 1⟩,
   ⟨0x1d516, 0x1d51c, 1, 0x73, 1⟩, ⟨0x1d51e, 0x1d537, 1, 0x61, 1⟩, ⟨0x1d53b, 0x1d53e, 1, 0x64, 1⟩,
   ⟨0x1d540, 0x1d544, 1, 0x69, 1⟩, ⟨0x1d54a, 0x1d550, 1, 0x73, 1⟩, ⟨0x1d552, 0x1d56b, 1, 0x61, 1⟩,
   ⟨0x1d56c, 0x1d585, 1, 0x61, 1⟩, ⟨0x1d586, 0x1d59f, 1, 0x61, 1⟩, ⟨0x1d5a0, 0x1d5b9, 1, 0x61, 1⟩,
   ⟨0x1d5ba, 0x1d5d3, 1, 0x61, 1⟩, ⟨0x1d5d4, 0x1d5ed, 1, 0x61, 1⟩, ⟨0x1d5ee, 0x1d607, 1, 0x61, 1⟩,
   ⟨0x1d608, 0x1d621, 1, 0x61, 1⟩, ⟨0x1d622, 0x1d63b, 1, 0x61, 1⟩, ⟨0x1d63c, 0x1d655, 1, 0x61, 1⟩,
   ⟨0x1d656, 0x1d66f, 1, 0x61, 1⟩, ⟨0x1d670, 0x1d689, 1, 0x61, 1⟩, ⟨0x1d68a, 0x1d6a3, 1, 0x61, 1⟩,
   ⟨0x1d6a8, 0x1d6b8, 1, 0x3b1, 1⟩, ⟨0x1d6ba, 0x1d6c0, 1, 0x3c3, 1⟩,
   ⟨0x1d6c2, 0x1d6d2, 1, 0x3b1, 1⟩, ⟨0x1d6d5, 0x1d6da, 1, 0x3c4, 1⟩,
   ⟨0x1d6e2, 0x1d6f2, 1, 0x3b1, 1⟩, ⟨0x1d6f4, 0x1d6fa, 1, 0x3c3, 1⟩,
   ⟨0x1d6fc, 0x1d70c, 1, 0x3b1, 1⟩, ⟨0x1d70f, 0x1d714, 1, 0x3c4, 1⟩,
   ⟨0x1d71c, 0x1d72c, 1, 0x3b1, 1⟩, ⟨0x1d72e, 0x1d734, 1, 0x3c3, 1⟩,
   ⟨0x1d736, 0x1d746, 1, 0x3b1, 1⟩, ⟨0x1d749, 0x1d74e, 1, 0x3c4, 1⟩,
   ⟨0x1d756, 0x1d766, 1, 0x3b1, 1⟩, ⟨0x1d768, 0x1d76e, 1, 0x3c3, 1⟩,
   ⟨0x1d770, 0x1d780, 1, 0x3b1, 1⟩, ⟨0x1d783, 0x1d788, 1, 0x3c4, 1⟩,
   ⟨0x1d790, 0x1d7a0, 1, 0x3b1, 1⟩, ⟨0x1d7a2, 0x1d7a8, 1, 0x3c3, 1⟩,
   ⟨0x1d7aa, 0x1d7ba, 1, 0x3b1, 1⟩, ⟨0x1d7bd, 0x1d7c2, 1, 0x3c4, 1⟩, ⟨0x1d7ce, 0x1d7d7, 1, 0x30, 1⟩,
   ⟨0x1d7d8, 0x1d7e1, 1, 0x30, 1⟩, ⟨0x1d7e2, 0x1d7eb, 1, 0x30, 1⟩, ⟨0x1d7ec, 0x1d7f5, 1, 0x30, 1⟩,
   ⟨0x1d7f6, 0x1d7ff, 1, 0x30, 1⟩, ⟨0x1e030, 0x1e038, 1, 0x430, 1⟩, ⟨0x1e039, 0x1e03b, 1, 0x43a, 1⟩,
   ⟨0x1e03c, 0x1e046, 1, 0x43e, 1⟩, ⟨0x1e051, 0x1e059, 1, 0x430, 1⟩,
   ⟨0x1e060, 0x1e064, 1, 0x444, 1⟩, ⟨0x1e900, 0x1e921, 1, 0x1e922, 1⟩,
   ⟨0x1ee0a, 0x1ee0d, 1, 0x643, 1⟩, ⟨0x1ee19, 0x1ee1b, 1, 0x636, 2⟩,
   ⟨0x1ee2a, 0x1ee2d, 1, 0x643, 1⟩, ⟨0x1ee79, 0x1ee7b, 1, 0x636, 2⟩,
   ⟨0x1ee8b, 0x1ee8d, 1, 0x644, 1⟩, ⟨0x1ee99, 0x1ee9b, 1, 0x636, 2⟩,
   ⟨0x1eeab, 0x1eead, 1, 0x644, 1⟩, ⟨0x1eeb9, 0x1eebb, 1, 0x636, 2⟩, ⟨0x1f130, 0x1f149, 1, 0x61, 1⟩,
   ⟨0x1fbf0, 0x1fbf9, 1, 0x30, 1⟩]

end GasFaucet.Url
