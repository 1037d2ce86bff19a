import FileServer.Text.Printable

/-!
# What characters of a domain name stand for

Letters in upper case stand for those in lower case, and forms that are kept for compatibility
stand for what they are made of. What is not listed here stands for itself. All lists ascend.
-/

namespace FileServer.Domain

/-- Runs of characters that stand for one other each: the first and the last of a run, how far
    apart its members are, and what the first stands for. The others follow in step. -/
def runs : List (Nat × Nat × Nat × Nat) :=
  [(0xC0, 0xD6, 1, 0xE0), (0xD8, 0xDE, 1, 0xF8), (0x100, 0x12E, 2, 0x101),
   (0x139, 0x13D, 2, 0x13A), (0x141, 0x147, 2, 0x142), (0x14A, 0x176, 2, 0x14B),
   (0x179, 0x17D, 2, 0x17A), (0x1A0, 0x1A4, 2, 0x1A1), (0x1CD, 0x1DB, 2, 0x1CE),
   (0x1DE, 0x1EE, 2, 0x1DF), (0x1F8, 0x21E, 2, 0x1F9), (0x222, 0x232, 2, 0x223),
   (0x246, 0x24E, 2, 0x247), (0x388, 0x38A, 1, 0x3AD), (0x391, 0x3A1, 1, 0x3B1),
   (0x3A3, 0x3AB, 1, 0x3C3), (0x3D8, 0x3EE, 2, 0x3D9), (0x3FD, 0x3FF, 1, 0x37B),
   (0x400, 0x40F, 1, 0x450), (0x410, 0x42F, 1, 0x430), (0x460, 0x480, 2, 0x461),
   (0x48A, 0x4BE, 2, 0x48B), (0x4C1, 0x4CD, 2, 0x4C2), (0x4D0, 0x52E, 2, 0x4D1),
   (0x531, 0x556, 1, 0x561), (0x10A0, 0x10C5, 1, 0x2D00), (0x13F8, 0x13FD, 1, 0x13F0),
   (0x1C90, 0x1CBA, 1, 0x10D0), (0x1CBD, 0x1CBF, 1, 0x10FD), (0x1D31, 0x1D39, 2, 0x65),
   (0x1D34, 0x1D3A, 2, 0x68), (0x1D5D, 0x1D5F, 1, 0x3B2), (0x1DA4, 0x1DA6, 1, 0x268),
   (0x1DAE, 0x1DB1, 1, 0x272), (0x1DBC, 0x1DBE, 1, 0x290), (0x1E00, 0x1E94, 2, 0x1E01),
   (0x1EA0, 0x1EFE, 2, 0x1EA1), (0x1F08, 0x1F0F, 1, 0x1F00), (0x1F18, 0x1F1D, 1, 0x1F10),
   (0x1F28, 0x1F2F, 1, 0x1F20), (0x1F38, 0x1F3F, 1, 0x1F30), (0x1F48, 0x1F4D, 1, 0x1F40),
   (0x1F59, 0x1F5F, 2, 0x1F51), (0x1F68, 0x1F6F, 1, 0x1F60), (0x2074, 0x2079, 1, 0x34),
   (0x2080, 0x2089, 1, 0x30), (0x2096, 0x2099, 1, 0x6B), (0x2119, 0x211B, 1, 0x70),
   (0x2135, 0x2138, 1, 0x5D0), (0x2460, 0x2468, 1, 0x31), (0x24B6, 0x24CF, 1, 0x61),
   (0x24D0, 0x24E9, 1, 0x61), (0x2C00, 0x2C2F, 1, 0x2C30), (0x2C67, 0x2C6B, 2, 0x2C68),
   (0x2C80, 0x2CE2, 2, 0x2C81), (0x3137, 0x3139, 1, 0x1103), (0x313A, 0x313F, 1, 0x11B0),
   (0x3141, 0x3143, 1, 0x1106), (0x3145, 0x314E, 1, 0x1109), (0x314F, 0x3163, 1, 0x1161),
   (0x3178, 0x317C, 1, 0x112B), (0x3184, 0x3186, 1, 0x1157), (0x3263, 0x3265, 1, 0x1105),
   (0x3269, 0x326D, 1, 0x110E), (0x32E4, 0x32E9, 1, 0x30CA), (0x32EE, 0x32F2, 1, 0x30DE),
   (0x32F5, 0x32FA, 1, 0x30E8), (0x32FB, 0x32FE, 1, 0x30EF), (0xA640, 0xA66C, 2, 0xA641),
   (0xA680, 0xA69A, 2, 0xA681), (0xA722, 0xA72E, 2, 0xA723), (0xA732, 0xA76E, 2, 0xA733),
   (0xA77E, 0xA786, 2, 0xA77F), (0xA796, 0xA7A8, 2, 0xA797), (0xA7B4, 0xA7C2, 2, 0xA7B5),
   (0xA7CC, 0xA7DA, 2, 0xA7CD), (0xAB70, 0xABBF, 1, 0x13A0), (0xFB24, 0xFB26, 1, 0x5DB),
   (0xFE41, 0xFE44, 1, 0x300C), (0xFF01, 0xFF20, 1, 0x21), (0xFF21, 0xFF3A, 1, 0x61),
   (0xFF3B, 0xFF5E, 1, 0x5B), (0xFF85, 0xFF8A, 1, 0x30CA), (0xFF8F, 0xFF93, 1, 0x30DE),
   (0xFF96, 0xFF9B, 1, 0x30E8), (0xFFA7, 0xFFA9, 1, 0x1103), (0xFFAA, 0xFFAF, 1, 0x11B0),
   (0xFFB1, 0xFFB3, 1, 0x1106), (0xFFB5, 0xFFBE, 1, 0x1109), (0xFFC2, 0xFFC7, 1, 0x1161),
   (0xFFCA, 0xFFCF, 1, 0x1167), (0xFFD2, 0xFFD7, 1, 0x116D), (0xFFDA, 0xFFDC, 1, 0x1173),
   (0xFFE9, 0xFFEC, 1, 0x2190), (0x10400, 0x10427, 1, 0x10428), (0x104B0, 0x104D3, 1, 0x104D8),
   (0x10570, 0x10594, 2, 0x10597), (0x10571, 0x10579, 2, 0x10598), (0x1057D, 0x10589, 2, 0x105A4),
   (0x1058D, 0x10591, 2, 0x105B4), (0x107B6, 0x107B8, 1, 0x1C0), (0x10C80, 0x10CB2, 1, 0x10CC0),
   (0x10D50, 0x10D65, 1, 0x10D70), (0x118A0, 0x118BF, 1, 0x118C0), (0x16E40, 0x16E5F, 1, 0x16E60),
   (0x16EA0, 0x16EB8, 1, 0x16EBB), (0x1CCD6, 0x1CCEF, 1, 0x61), (0x1CCF0, 0x1CCF9, 1, 0x30),
   (0x1D400, 0x1D419, 1, 0x61), (0x1D41A, 0x1D433, 1, 0x61), (0x1D434, 0x1D44D, 1, 0x61),
   (0x1D44E, 0x1D466, 2, 0x61), (0x1D44F, 0x1D453, 2, 0x62), (0x1D457, 0x1D467, 2, 0x6A),
   (0x1D468, 0x1D481, 1, 0x61), (0x1D482, 0x1D49B, 1, 0x61), (0x1D4A9, 0x1D4AC, 1, 0x6E),
   (0x1D4AE, 0x1D4B5, 1, 0x73), (0x1D4B6, 0x1D4B9, 1, 0x61), (0x1D4BB, 0x1D4CF, 2, 0x66),
   (0x1D4BE, 0x1D4C2, 2, 0x69), (0x1D4C6, 0x1D4CE, 2, 0x71), (0x1D4D0, 0x1D4E9, 1, 0x61),
   (0x1D4EA, 0x1D503, 1, 0x61), (0x1D505, 0x1D509, 2, 0x62), (0x1D50D, 0x1D514, 1, 0x6A),
   (0x1D516, 0x1D51C, 1, 0x73), (0x1D51E, 0x1D537, 1, 0x61), (0x1D539, 0x1D53D, 2, 0x62),
   (0x1D53C, 0x1D546, 2, 0x65), (0x1D54A, 0x1D550, 1, 0x73), (0x1D552, 0x1D56B, 1, 0x61),
   (0x1D56C, 0x1D585, 1, 0x61), (0x1D586, 0x1D59F, 1, 0x61), (0x1D5A0, 0x1D5B9, 1, 0x61),
   (0x1D5BA, 0x1D5D3, 1, 0x61), (0x1D5D4, 0x1D5ED, 1, 0x61), (0x1D5EE, 0x1D607, 1, 0x61),
   (0x1D608, 0x1D621, 1, 0x61), (0x1D622, 0x1D63B, 1, 0x61), (0x1D63C, 0x1D655, 1, 0x61),
   (0x1D656, 0x1D66F, 1, 0x61), (0x1D670, 0x1D689, 1, 0x61), (0x1D68A, 0x1D6A3, 1, 0x61),
   (0x1D6A8, 0x1D6B8, 1, 0x3B1), (0x1D6BA, 0x1D6C0, 1, 0x3C3), (0x1D6C2, 0x1D6D2, 1, 0x3B1),
   (0x1D6D4, 0x1D6DA, 1, 0x3C3), (0x1D6E2, 0x1D6F2, 1, 0x3B1), (0x1D6F4, 0x1D6FA, 1, 0x3C3),
   (0x1D6FC, 0x1D70C, 1, 0x3B1), (0x1D70E, 0x1D714, 1, 0x3C3), (0x1D71C, 0x1D72C, 1, 0x3B1),
   (0x1D72E, 0x1D734, 1, 0x3C3), (0x1D736, 0x1D746, 1, 0x3B1), (0x1D748, 0x1D74E, 1, 0x3C3),
   (0x1D756, 0x1D766, 1, 0x3B1), (0x1D768, 0x1D76E, 1, 0x3C3), (0x1D770, 0x1D780, 1, 0x3B1),
   (0x1D782, 0x1D788, 1, 0x3C3), (0x1D790, 0x1D7A0, 1, 0x3B1), (0x1D7A2, 0x1D7A8, 1, 0x3C3),
   (0x1D7AA, 0x1D7BA, 1, 0x3B1), (0x1D7BC, 0x1D7C2, 1, 0x3C3), (0x1D7CE, 0x1D7D7, 1, 0x30),
   (0x1D7D8, 0x1D7E1, 1, 0x30), (0x1D7E2, 0x1D7EB, 1, 0x30), (0x1D7EC, 0x1D7F5, 1, 0x30),
   (0x1D7F6, 0x1D7FF, 1, 0x30), (0x1E030, 0x1E038, 1, 0x430), (0x1E039, 0x1E03B, 1, 0x43A),
   (0x1E03C, 0x1E046, 1, 0x43E), (0x1E051, 0x1E059, 1, 0x430), (0x1E05F, 0x1E064, 1, 0x443),
   (0x1E900, 0x1E921, 1, 0x1E922), (0x1EE0A, 0x1EE0D, 1, 0x643), (0x1EE2A, 0x1EE2D, 1, 0x643),
   (0x1EE8B, 0x1EE8D, 1, 0x644), (0x1EEAB, 0x1EEAD, 1, 0x644), (0x1F130, 0x1F149, 1, 0x61),
   (0x1FBF0, 0x1FBF9, 1, 0x30)]

/-- Rows of neighbours that stand for one character each: the first of a row, and one character
    for each member. -/
def rows : List (Nat × String) :=
  [(0xA0, " "), (0xAA, "a"), (0xB2, "23"), (0xB5, "\u03bc"), (0xB9, "1o"), (0x134, "\u0135"),
   (0x136, "\u0137"), (0x178, "\u00ff"), (0x17F, "s"), (0x181, "\u0253\u0183"), (0x184, "\u0185"),
   (0x186, "\u0254\u0188"), (0x189, "\u0256\u0257\u018c"), (0x18E, "\u01dd\u0259\u025b\u0192"),
   (0x193, "\u0260\u0263"), (0x196, "\u0269\u0268\u0199"), (0x19C, "\u026f\u0272"),
   (0x19F, "\u0275"), (0x1A6, "\u0280\u01a8"), (0x1A9, "\u0283"), (0x1AC, "\u01ad"),
   (0x1AE, "\u0288\u01b0"), (0x1B1, "\u028a\u028b\u01b4"), (0x1B5, "\u01b6"),
   (0x1B7, "\u0292\u01b9"), (0x1BC, "\u01bd"), (0x1F4, "\u01f5"), (0x1F6, "\u0195\u01bf"),
   (0x220, "\u019e"), (0x23A, "\u2c65\u023c"), (0x23D, "\u019a\u2c66"), (0x241, "\u0242"),
   (0x243, "\u0180\u0289\u028c"), (0x2B0, "h\u0266jr\u0279\u027b\u0281wy"),
   (0x2E0, "\u0263lsx\u0295"), (0x340, "\u0300\u0301"), (0x343, "\u0313"), (0x345, "\u03b9"),
   (0x370, "\u0371"), (0x372, "\u0373"), (0x374, "\u02b9"), (0x376, "\u0377"), (0x37E, ";\u03f3"),
   (0x386, "\u03ac\u00b7"), (0x38C, "\u03cc"), (0x38E, "\u03cd\u03ce"),
   (0x3CF, "\u03d7\u03b2\u03b8\u03c5\u03cd\u03cb\u03c6\u03c0"), (0x3F0, "\u03ba\u03c1\u03c3"),
   (0x3F4, "\u03b8\u03b5"), (0x3F7, "\u03f8"), (0x3F9, "\u03c3\u03fb"), (0x4C0, "\u04cf"),
   (0xF0C, "\u0f0b"), (0x10C7, "\u2d27"), (0x10CD, "\u2d2d"), (0x10FC, "\u10dc"),
   (0x1C80, "\u0432\u0434\u043e\u0441\u0442\u0442\u044a\u0463\ua64b\u1c8a"), (0x1D2C, "a\u00e6b"),
   (0x1D30, "d"), (0x1D32, "\u01dd"),
   (0x1D3C, "o\u0223prtuwa\u0250\u0251\u1d02bde\u0259\u025b\u025cg"),
   (0x1D4F, "km\u014bo\u0254\u1d16\u1d17ptu\u1d1d\u026fv\u1d25"),
   (0x1D60, "\u03c6\u03c7iruv\u03b2\u03b3\u03c1\u03c6\u03c7"), (0x1D78, "\u043d"),
   (0x1D9B, "\u0252c\u0255\u00f0\u025cf\u025f\u0261\u0265"),
   (0x1DA7, "\u1d7b\u029d\u026d\u1d85\u029f\u0271\u0270"),
   (0x1DB2, "\u0278\u0282\u0283\u01ab\u0289\u028a\u1d1c\u028b\u028cz"), (0x1DBF, "\u03b8"),
   (0x1E9B, "\u1e61"), (0x1E9E, "\u00df"), (0x1F71, "\u03ac"), (0x1F73, "\u03ad"),
   (0x1F75, "\u03ae"), (0x1F77, "\u03af"), (0x1F79, "\u03cc"), (0x1F7B, "\u03cd"),
   (0x1F7D, "\u03ce"), (0x1FB8, "\u1fb0\u1fb1\u1f70\u03ac"), (0x1FBE, "\u03b9"),
   (0x1FC8, "\u1f72\u03ad\u1f74\u03ae"), (0x1FD3, "\u0390"), (0x1FD8, "\u1fd0\u1fd1\u1f76\u03af"),
   (0x1FE3, "\u03b0"), (0x1FE8, "\u1fe0\u1fe1\u1f7a\u03cd\u1fe5"), (0x1FEF, "\x60"),
   (0x1FF8, "\u1f78\u03cc\u1f7c\u03ce"), (0x2000, "           "), (0x2011, "\u2010"),
   (0x202F, " "), (0x205F, " "), (0x2070, "0i"), (0x207A, "+\u2212=()n"), (0x208A, "+\u2212=()"),
   (0x2090, "aeox\u0259h"), (0x209A, "pst"), (0x2102, "c"), (0x2107, "\u025b"),
   (0x210A, "ghhhh\u0127iill"), (0x2115, "n"), (0x211C, "rr"), (0x2124, "z"), (0x2126, "\u03c9"),
   (0x2128, "z"), (0x212A, "k\u00e5bc"), (0x212F, "eef\u214emo"), (0x2139, "i"),
   (0x213C, "\u03c0\u03b3\u03b3\u03c0\u2211"), (0x2145, "ddeij"), (0x2160, "i"), (0x2164, "v"),
   (0x2169, "x"), (0x216C, "lcdmi"), (0x2174, "v"), (0x2179, "x"), (0x217C, "lcdm"),
   (0x2183, "\u2184"), (0x2329, "\u3008\u3009"), (0x24EA, "0"), (0x2C60, "\u2c61"),
   (0x2C62, "\u026b\u1d7d\u027d"), (0x2C6D, "\u0251\u0271\u0250\u0252"), (0x2C72, "\u2c73"),
   (0x2C75, "\u2c76"), (0x2C7C, "jv\u023f\u0240"), (0x2CEB, "\u2cec"), (0x2CED, "\u2cee"),
   (0x2CF2, "\u2cf3"), (0x2D6F, "\u2d61"), (0x2E9F, "母"), (0x2EF3, "龟"),
   (0x2F00, "一丨丶丿乙亅二亠人儿入八冂冖冫几凵刀力勹匕匚匸十卜卩厂厶又口囗土士夂夊夕大女子宀寸"),
   (0x2F29, "小尢尸屮山巛工己巾干幺广廴廾弋弓彐彡彳心戈戶手支攴文斗斤方无日曰月木欠止歹殳毋比毛"),
   (0x2F52, "氏气水火爪父爻爿片牙牛犬玄玉瓜瓦甘生用田疋疒癶白皮皿目矛矢石示禸禾穴立竹米糸缶网羊"),
   (0x2F7B, "羽老而耒耳聿肉臣自至臼舌舛舟艮色艸虍虫血行衣襾見角言谷豆豕豸貝赤走足身車辛辰辵邑酉"),
   (0x2FA4, "釆里金長門阜隶隹雨靑非面革韋韭音頁風飛食首香馬骨高髟鬥鬯鬲鬼魚鳥鹵鹿麥麻黃黍黑黹黽"),
   (0x2FCD, "鼎鼓鼠鼻齊齒龍龜龠"), (0x3000, " "), (0x3002, "."), (0x3036, "\u3012"),
   (0x3038, "十卄卅"), (0x3131, "\u1100\u1101\u11aa\u1102\u11ac\u11ad"), (0x3140, "\u111a"),
   (0x3144, "\u1121"),
   (0x3165, "\u1114\u1115\u11c7\u11c8\u11cc\u11ce\u11d3\u11d7\u11d9\u111c\u11dd\u11df\u111d"),
   (0x3172, "\u111e\u1120\u1122\u1123\u1127\u1129"),
   (0x317D, "\u1132\u1136\u1140\u1147\u114c\u11f1\u11f2"),
   (0x3187, "\u1184\u1185\u1188\u1191\u1192\u1194\u119e\u11a1"),
   (0x3192, "一二三四上中下甲乙丙丁天地人"), (0x3244, "問幼文箏"), (0x3260, "\u1100\u1102\u1103"),
   (0x3266, "\u1109\u110b\u110c"),
   (0x326E, "\uac00\ub098\ub2e4\ub77c\ub9c8\ubc14\uc0ac\uc544\uc790\ucc28\uce74\ud0c0\ud30c"),
   (0x327B, "\ud558"), (0x327E, "\uc6b0"),
   (0x3280, "一二三四五六七八九十月火水木金土日株有社名特財祝労秘男女適優印注項休写正上中下左右"),
   (0x32A9, "医宗学監企資協夜"),
   (0x32D0, "\u30a2\u30a4\u30a6\u30a8\u30aa\u30ab\u30ad\u30af\u30b1\u30b3\u30b5\u30b7\u30b9"),
   (0x32DD, "\u30bb\u30bd\u30bf\u30c1\u30c4\u30c6\u30c8"), (0x32EA, "\u30d2\u30d5\u30d8\u30db"),
   (0x32F3, "\u30e4\u30e6"), (0xA69C, "\u044a\u044c"), (0xA770, "\ua76f"), (0xA779, "\ua77a"),
   (0xA77B, "\ua77c"), (0xA77D, "\u1d79"), (0xA78B, "\ua78c"), (0xA78D, "\u0265"),
   (0xA790, "\ua791"), (0xA792, "\ua793"), (0xA7AA, "\u0266\u025c\u0261\u026c\u026a"),
   (0xA7B0, "\u029e\u0287\u029d\uab53"), (0xA7C4, "\ua794\u0282\u1d8e\ua7c8"), (0xA7C9, "\ua7ca"),
   (0xA7CB, "\u0264"), (0xA7DC, "\u019b"), (0xA7F1, "scfq\ua7f6"), (0xA7F8, "\u0127\u0153"),
   (0xAB5C, "\ua727\uab37\u026b\uab52"), (0xAB69, "\u028d"),
   (0xF900, "豈更車賈滑串句龜龜契金喇奈懶癩羅蘿螺裸邏樂洛烙珞落酪駱亂卵欄爛蘭鸞嵐濫藍襤拉臘蠟廊"),
   (0xF929, "朗浪狼郎來冷勞擄櫓爐盧老蘆虜路露魯鷺碌祿綠菉錄鹿論壟弄籠聾牢磊賂雷壘屢樓淚漏累縷陋"),
   (0xF952, "勒肋凜凌稜綾菱陵讀拏樂諾丹寧怒率異北磻便復不泌數索參塞省葉說殺辰沈拾若掠略亮兩凉梁"),
   (0xF97B, "糧良諒量勵呂女廬旅濾礪閭驪麗黎力曆歷轢年憐戀撚漣煉璉秊練聯輦蓮連鍊列劣咽烈裂說廉念"),
   (0xF9A4, "捻殮簾獵令囹寧嶺怜玲瑩羚聆鈴零靈領例禮醴隸惡了僚寮尿料樂燎療蓼遼龍暈阮劉杻柳流溜琉"),
   (0xF9CD, "留硫紐類六戮陸倫崙淪輪律慄栗率隆利吏履易李梨泥理痢罹裏裡里離匿溺吝燐璘藺隣鱗麟林淋"),
   (0xF9F6, "臨立笠粒狀炙識什茶刺切度拓糖宅洞暴輻行降見廓兀嗀"), (0xFA10, "塚"), (0xFA12, "晴"),
   (0xFA15, "凞猪益礼神祥福靖精羽"), (0xFA20, "蘒"), (0xFA22, "諸"), (0xFA25, "逸都"),
   (0xFA2A, "飯飼館鶴郞隷侮僧免勉勤卑喝嘆器塀墨層屮悔慨憎懲敏既暑梅海渚漢煮爫琢碑社祉祈祐祖祝禍"),
   (0xFA53, "禎穀突節練縉繁署者臭艹艹著褐視謁謹賓贈辶逸難響頻恵𤋮舘"),
   (0xFA70, "並况全侀充冀勇勺喝啕喙嗢塚墳奄奔婢嬨廒廙彩徭惘慎愈憎慠懲戴揄搜摒敖晴朗望杖歹殺流滛"),
   (0xFA99, "滋漢瀞煮瞧爵犯猪瑱甆画瘝瘟益盛直睊着磌窱節类絛練缾者荒華蝹襁覆視調諸請謁諾諭謹變贈"),
   (0xFAC2, "輸遲醙鉶陼難靖韛響頋頻鬒龜𢡊𢡄𣏕㮝䀘䀹𥉉𥳐𧻓齃龎"),
   (0xFB20, "\u05e2\u05d0\u05d3\u05d4"), (0xFB27, "\u05e8\u05ea+"),
   (0xFB50, "\u0671\u0671\u067b\u067b\u067b\u067b\u067e\u067e\u067e\u067e\u0680\u0680\u0680"),
   (0xFB5D, "\u0680\u067a\u067a\u067a\u067a\u067f\u067f\u067f\u067f\u0679\u0679\u0679\u0679"),
   (0xFB6A, "\u06a4\u06a4\u06a4\u06a4\u06a6\u06a6\u06a6\u06a6\u0684\u0684\u0684\u0684\u0683"),
   (0xFB77, "\u0683\u0683\u0683\u0686\u0686\u0686\u0686\u0687\u0687\u0687\u0687\u068d\u068d"),
   (0xFB84, "\u068c\u068c\u068e\u068e\u0688\u0688\u0698\u0698\u0691\u0691\u06a9\u06a9\u06a9"),
   (0xFB91, "\u06a9\u06af\u06af\u06af\u06af\u06b3\u06b3\u06b3\u06b3\u06b1\u06b1\u06b1\u06b1"),
   (0xFB9E, "\u06ba\u06ba\u06bb\u06bb\u06bb\u06bb\u06c0\u06c0\u06c1\u06c1\u06c1\u06c1\u06be"),
   (0xFBAB, "\u06be\u06be\u06be\u06d2\u06d2\u06d3\u06d3"),
   (0xFBD3, "\u06ad\u06ad\u06ad\u06ad\u06c7\u06c7\u06c6\u06c6\u06c8\u06c8"),
   (0xFBDE, "\u06cb\u06cb\u06c5\u06c5\u06c9\u06c9\u06d0\u06d0\u06d0\u06d0\u0649\u0649"),
   (0xFBFC, "\u06cc\u06cc\u06cc\u06cc"), (0xFE10, ",\u3001"), (0xFE13, ":;!?\u3016\u3017"),
   (0xFE31, "\u2014\u2013__()\x7b\x7d\u3014\u3015\u3010\u3011\u300a\u300b\u3008\u3009"),
   (0xFE47, "[]"), (0xFE4D, "___,\u3001"), (0xFE54, ";:?!\u2014()\x7b\x7d\u3014\u3015#&*+-<>="),
   (0xFE68, "\x5c$%@"),
   (0xFE80, "\u0621\u0622\u0622\u0623\u0623\u0624\u0624\u0625\u0625\u0626\u0626\u0626\u0626"),
   (0xFE8D, "\u0627\u0627\u0628\u0628\u0628\u0628\u0629\u0629\u062a\u062a\u062a\u062a\u062b"),
   (0xFE9A, "\u062b\u062b\u062b\u062c\u062c\u062c\u062c\u062d\u062d\u062d\u062d\u062e\u062e"),
   (0xFEA7, "\u062e\u062e\u062f\u062f\u0630\u0630\u0631\u0631\u0632\u0632\u0633\u0633\u0633"),
   (0xFEB4, "\u0633\u0634\u0634\u0634\u0634\u0635\u0635\u0635\u0635\u0636\u0636\u0636\u0636"),
   (0xFEC1, "\u0637\u0637\u0637\u0637\u0638\u0638\u0638\u0638\u0639\u0639\u0639\u0639\u063a"),
   (0xFECE, "\u063a\u063a\u063a\u0641\u0641\u0641\u0641\u0642\u0642\u0642\u0642\u0643\u0643"),
   (0xFEDB, "\u0643\u0643\u0644\u0644\u0644\u0644\u0645\u0645\u0645\u0645\u0646\u0646\u0646"),
   (0xFEE8, "\u0646\u0647\u0647\u0647\u0647\u0648\u0648\u0649\u0649\u064a\u064a\u064a\u064a"),
   (0xFF5F, "\u2985\u2986.\u300c\u300d\u3001\u30fb\u30f2\u30a1\u30a3\u30a5\u30a7\u30a9\u30e3"),
   (0xFF6D, "\u30e5\u30e7\u30c3\u30fc\u30a2\u30a4\u30a6\u30a8\u30aa\u30ab\u30ad\u30af\u30b1"),
   (0xFF7A, "\u30b3\u30b5\u30b7\u30b9\u30bb\u30bd\u30bf\u30c1\u30c4\u30c6\u30c8"),
   (0xFF8B, "\u30d2\u30d5\u30d8\u30db"), (0xFF94, "\u30e4\u30e6"),
   (0xFF9C, "\u30ef\u30f3\u3099\u309a"), (0xFFA1, "\u1100\u1101\u11aa\u1102\u11ac\u11ad"),
   (0xFFB0, "\u111a"), (0xFFB4, "\u1121"), (0xFFE0, "\u00a2\u00a3\u00ac"),
   (0xFFE4, "\u00a6\u00a5\u20a9"), (0xFFE8, "\u2502"), (0xFFED, "\u25a0\u25cb"), (0x10595, "𐖼"),
   (0x10781, "\u02d0\u02d1\u00e6\u0299\u0253"),
   (0x10787, "\u02a3\uab66\u02a5\u02a4\u0256\u0257\u1d91\u0258\u025e\u02a9\u0264\u0262\u0260"),
   (0x10794, "\u029b\u0127\u029c\u0267\u0284\u02aa\u02ab\u026c𝼄\ua78e\u026e𝼅\u028e𝼆\u00f8"),
   (0x107A3, "\u0276\u0277q\u027a𝼈\u027d\u027e\u0280\u02a8\u02a6\uab67\u02a7\u0288\u2c71"),
   (0x107B2, "\u028f\u02a1\u02a2\u0298"), (0x107B9, "𝼊𝼞"), (0x1D49C, "a"), (0x1D49E, "cd"),
   (0x1D4A2, "g"), (0x1D4A5, "jk"), (0x1D504, "a"), (0x1D508, "e"), (0x1D50A, "g"),
   (0x1D538, "a"), (0x1D541, "j"), (0x1D543, "l"), (0x1D6A4, "\u0131\u0237"), (0x1D6B9, "\u03b8"),
   (0x1D6C1, "\u2207"), (0x1D6D3, "\u03c3"),
   (0x1D6DB, "\u2202\u03b5\u03b8\u03ba\u03c6\u03c1\u03c0"), (0x1D6F3, "\u03b8"),
   (0x1D6FB, "\u2207"), (0x1D70D, "\u03c3"),
   (0x1D715, "\u2202\u03b5\u03b8\u03ba\u03c6\u03c1\u03c0"), (0x1D72D, "\u03b8"),
   (0x1D735, "\u2207"), (0x1D747, "\u03c3"),
   (0x1D74F, "\u2202\u03b5\u03b8\u03ba\u03c6\u03c1\u03c0"), (0x1D767, "\u03b8"),
   (0x1D76F, "\u2207"), (0x1D781, "\u03c3"),
   (0x1D789, "\u2202\u03b5\u03b8\u03ba\u03c6\u03c1\u03c0"), (0x1D7A1, "\u03b8"),
   (0x1D7A9, "\u2207"), (0x1D7BB, "\u03c3"),
   (0x1D7C3, "\u2202\u03b5\u03b8\u03ba\u03c6\u03c1\u03c0\u03dd\u03dd"),
   (0x1E047, "\u044b\u044d\u044e\ua689\u04d9\u0456\u0458\u04e9\u04af\u04cf"),
   (0x1E05A, "\u043a\u043b\u043e\u043f\u0441"),
   (0x1E065, "\u044a\u044b\u0491\u0456\u0455\u045f\u04ab\ua651\u04b1"),
   (0x1EE00, "\u0627\u0628\u062c\u062f"), (0x1EE05, "\u0648\u0632\u062d\u0637\u064a"),
   (0x1EE0E, "\u0633\u0639\u0641\u0635\u0642\u0631\u0634\u062a\u062b\u062e\u0630\u0636\u0638"),
   (0x1EE1B, "\u063a\u066e\u06ba\u06a1\u066f"), (0x1EE21, "\u0628\u062c"), (0x1EE24, "\u0647"),
   (0x1EE27, "\u062d"), (0x1EE29, "\u064a"), (0x1EE2E, "\u0633\u0639\u0641\u0635\u0642"),
   (0x1EE34, "\u0634\u062a\u062b\u062e"), (0x1EE39, "\u0636"), (0x1EE3B, "\u063a"),
   (0x1EE42, "\u062c"), (0x1EE47, "\u062d"), (0x1EE49, "\u064a"), (0x1EE4B, "\u0644"),
   (0x1EE4D, "\u0646\u0633\u0639"), (0x1EE51, "\u0635\u0642"), (0x1EE54, "\u0634"),
   (0x1EE57, "\u062e"), (0x1EE59, "\u0636"), (0x1EE5B, "\u063a"), (0x1EE5D, "\u06ba"),
   (0x1EE5F, "\u066f"), (0x1EE61, "\u0628\u062c"), (0x1EE64, "\u0647"),
   (0x1EE67, "\u062d\u0637\u064a\u0643"), (0x1EE6C, "\u0645\u0646\u0633\u0639\u0641\u0635\u0642"),
   (0x1EE74, "\u0634\u062a\u062b\u062e"), (0x1EE79, "\u0636\u0638\u063a\u066e"),
   (0x1EE7E, "\u06a1"), (0x1EE80, "\u0627\u0628\u062c\u062f\u0647\u0648\u0632\u062d\u0637\u064a"),
   (0x1EE8E, "\u0633\u0639\u0641\u0635\u0642\u0631\u0634\u062a\u062b\u062e\u0630\u0636\u0638"),
   (0x1EE9B, "\u063a"), (0x1EEA1, "\u0628\u062c\u062f"),
   (0x1EEA5, "\u0648\u0632\u062d\u0637\u064a"),
   (0x1EEAE, "\u0633\u0639\u0641\u0635\u0642\u0631\u0634\u062a\u062b\u062e\u0630\u0636\u0638"),
   (0x1EEBB, "\u063a"), (0x1F12B, "cr"), (0x1F202, "\u30b5"),
   (0x1F210, "手字双\u30c7二多解天交映無料前後再新初終生販声吹演投捕一三遊左中右指走打禁空合満有"),
   (0x1F237, "月申割営配"), (0x1F250, "得可"),
   (0x2F800, "丽丸乁𠄢你侮侻倂偺備僧像㒞𠘺免兔兤具𠔜㒹內再𠕋冗冤仌冬况𩇟凵刃㓟刻剆割剷㔕勇勉勤勺"),
   (0x2F829, "包匆北卉卑博即卽卿卿卿𠨬灰及叟𠭣叫叱吆咞吸呈周咢哶唐啓啣善善喙喫喳嗂圖嘆圗噑噴切壮"),
   (0x2F852, "城埴堍型堲報墬𡓤売壷夆多夢奢𡚨𡛪姬娛娧姘婦㛮㛼嬈嬾嬾𡧈寃寘寧寳𡬘寿将当尢㞁屠屮峀岍"),
   (0x2F87B, "𡷤嵃𡷦嵮嵫嵼巡巢㠯巽帨帽幩㡢𢆃㡼庰庳庶廊𪎒廾𢌱𢌱舁弢弢㣇𣊸𦇚形彫㣣徚忍志忹悁㤺㤜悔"),
   (0x2F8A4, "𢛔惇慈慌慎慌慺憎憲憤憯懞懲懶成戛扝抱拔捐𢬌挽拼捨掃揤𢯱搢揅掩㨮摩摾撝摷㩬敏敬𣀊旣書"),
   (0x2F8CD, "晉㬙暑㬈㫤冒冕最暜肭䏙朗望朡杞杓𣏃㭉柺枅桒梅𣑭梎栟椔㮝楂榣槪檨𣚣櫛㰘次𣢧歔㱎歲殟殺"),
   (0x2F8F6, "殻𣪍𡴋𣫺汎𣲼沿泍汧洖派海流浩浸涅𣴞洴港湮㴳滋滇𣻑淹潮𣽞𣾎濆瀹瀞瀛㶖灊災灷炭𠔥煅𤉣熜"),
   (0x2F91F, "𤎫爨爵牐𤘈犀犕𤜵𤠔獺王㺬玥㺸㺸瑇瑜瑱璅瓊㼛甤𤰶甾𤲒異𢆟瘐𤾡𤾸𥁄㿼䀈直𥃳𥃲𥄙𥄳眞真真"),
   (0x2F948, "睊䀹瞋䁆䂖𥐝硎碌磌䃣𥘦祖𥚚𥛅福秫䄯穀穊穏𥥼𥪧𥪧竮䈂𥮫篆築䈧𥲀糒䊠糨糣紀𥾆絣䌁緇縂繅"),
   (0x2F971, "䌴𦈨𦉇䍙𦋙罺𦌾羕翺者𦓚𦔣聠𦖨聰𣍟䏕育脃䐋脾媵𦞧𦞵𣎓𣎜舁舄辞䑫芑芋芝劳花芳芽苦𦬼若茝"),
   (0x2F99A, "荣莭茣莽菧著荓菊菌菜𦰶𦵫𦳕䔫蓱蓳蔖𧏊蕤𦼬䕝䕡𦾱𧃒䕫虐虜虧虩蚩蚈蜎蛢蝹蜨蝫螆䗗蟡蠁䗹"),
   (0x2F9C3, "衠衣𧙧裗裞䘵裺㒻𧢮𧥦䚾䛇誠諭變豕𧲨貫賁贛起𧼯𠠄跋趼跰𠣞軔輸𨗒𨗭邔郱鄑𨜮鄛鈸鋗鋘鉼鏹"),
   (0x2F9EC, "鐕𨯺開䦕閷𨵷䧦雃嶲霣𩅅𩈚䩮䩶韠𩐊䪲𩒖頋頋頩𩖶飢䬳餩馧駂駾䯎𩬰鬒鱀鳽䳎䳭鵧𪃎䳸𪄅𪈎𪊑"),
   (0x2FA15, "麻䵖黹黾鼅鼏鼖鼻𪘀")]

/-- Rows of neighbours that stand for several characters each. -/
def spelledOut : List (Nat × List String) :=
  [(0xA8, [" \u0308"]), (0xAF, [" \u0304"]), (0xB4, [" \u0301"]), (0xB8, [" \u0327"]),
   (0xBC, ["1\u20444", "1\u20442", "3\u20444"]), (0x130, ["i\u0307"]), (0x132, ["ij", "ij"]),
   (0x13F, ["l\u00b7", "l\u00b7"]), (0x149, ["\u02bcn"]),
   (0x1C4, ["d\u017e", "d\u017e", "d\u017e", "lj", "lj", "lj", "nj", "nj", "nj"]),
   (0x1F1, ["dz", "dz", "dz"]),
   (0x2D8, [" \u0306", " \u0307", " \u030a", " \u0328", " \u0303", " \u030b"]),
   (0x344, ["\u0308\u0301"]), (0x37A, [" \u03b9"]), (0x384, [" \u0301", " \u0308\u0301"]),
   (0x587, ["\u0565\u0582"]),
   (0x675, ["\u0627\u0674", "\u0648\u0674", "\u06c7\u0674", "\u064a\u0674"]),
   (0x958, ["\u0915\u093c", "\u0916\u093c", "\u0917\u093c", "\u091c\u093c", "\u0921\u093c",
     "\u0922\u093c", "\u092b\u093c", "\u092f\u093c"]), (0x9DC, ["\u09a1\u09bc", "\u09a2\u09bc"]),
   (0x9DF, ["\u09af\u09bc"]), (0xA33, ["\u0a32\u0a3c"]), (0xA36, ["\u0a38\u0a3c"]),
   (0xA59, ["\u0a16\u0a3c", "\u0a17\u0a3c", "\u0a1c\u0a3c"]), (0xA5E, ["\u0a2b\u0a3c"]),
   (0xB5C, ["\u0b21\u0b3c", "\u0b22\u0b3c"]), (0xE33, ["\u0e4d\u0e32"]), (0xEB3, ["\u0ecd\u0eb2"]),
   (0xEDC, ["\u0eab\u0e99", "\u0eab\u0ea1"]), (0xF43, ["\u0f42\u0fb7"]), (0xF4D, ["\u0f4c\u0fb7"]),
   (0xF52, ["\u0f51\u0fb7"]), (0xF57, ["\u0f56\u0fb7"]), (0xF5C, ["\u0f5b\u0fb7"]),
   (0xF69, ["\u0f40\u0fb5"]), (0xF73, ["\u0f71\u0f72"]),
   (0xF75, ["\u0f71\u0f74", "\u0fb2\u0f80", "\u0fb2\u0f71\u0f80", "\u0fb3\u0f80",
     "\u0fb3\u0f71\u0f80"]), (0xF81, ["\u0f71\u0f80"]), (0xF93, ["\u0f92\u0fb7"]),
   (0xF9D, ["\u0f9c\u0fb7"]), (0xFA2, ["\u0fa1\u0fb7"]), (0xFA7, ["\u0fa6\u0fb7"]),
   (0xFAC, ["\u0fab\u0fb7"]), (0xFB9, ["\u0f90\u0fb5"]), (0x1E9A, ["a\u02be"]),
   (0x1F80, ["\u1f00\u03b9", "\u1f01\u03b9", "\u1f02\u03b9", "\u1f03\u03b9", "\u1f04\u03b9",
     "\u1f05\u03b9", "\u1f06\u03b9", "\u1f07\u03b9", "\u1f00\u03b9", "\u1f01\u03b9",
     "\u1f02\u03b9", "\u1f03\u03b9", "\u1f04\u03b9", "\u1f05\u03b9", "\u1f06\u03b9",
     "\u1f07\u03b9", "\u1f20\u03b9", "\u1f21\u03b9", "\u1f22\u03b9", "\u1f23\u03b9",
     "\u1f24\u03b9", "\u1f25\u03b9", "\u1f26\u03b9", "\u1f27\u03b9", "\u1f20\u03b9",
     "\u1f21\u03b9", "\u1f22\u03b9", "\u1f23\u03b9", "\u1f24\u03b9", "\u1f25\u03b9",
     "\u1f26\u03b9", "\u1f27\u03b9", "\u1f60\u03b9", "\u1f61\u03b9", "\u1f62\u03b9",
     "\u1f63\u03b9", "\u1f64\u03b9", "\u1f65\u03b9", "\u1f66\u03b9", "\u1f67\u03b9",
     "\u1f60\u03b9", "\u1f61\u03b9", "\u1f62\u03b9", "\u1f63\u03b9", "\u1f64\u03b9",
     "\u1f65\u03b9", "\u1f66\u03b9", "\u1f67\u03b9"]),
   (0x1FB2, ["\u1f70\u03b9", "\u03b1\u03b9", "\u03ac\u03b9"]), (0x1FB7, ["\u1fb6\u03b9"]),
   (0x1FBC, ["\u03b1\u03b9", " \u0313"]),
   (0x1FBF, [" \u0313", " \u0342", " \u0308\u0342", "\u1f74\u03b9", "\u03b7\u03b9",
     "\u03ae\u03b9"]), (0x1FC7, ["\u1fc6\u03b9"]),
   (0x1FCC, ["\u03b7\u03b9", " \u0313\u0300", " \u0313\u0301", " \u0313\u0342"]),
   (0x1FDD, [" \u0314\u0300", " \u0314\u0301", " \u0314\u0342"]),
   (0x1FED, [" \u0308\u0300", " \u0308\u0301"]),
   (0x1FF2, ["\u1f7c\u03b9", "\u03c9\u03b9", "\u03ce\u03b9"]), (0x1FF7, ["\u1ff6\u03b9"]),
   (0x1FFC, ["\u03c9\u03b9", " \u0301", " \u0314"]), (0x2017, [" \u0333"]),
   (0x2033, ["\u2032\u2032", "\u2032\u2032\u2032"]),
   (0x2036, ["\u2035\u2035", "\u2035\u2035\u2035"]), (0x203C, ["!!"]), (0x203E, [" \u0305"]),
   (0x2047, ["??", "?!", "!?"]), (0x2057, ["\u2032\u2032\u2032\u2032"]), (0x20A8, ["rs"]),
   (0x2100, ["a/c", "a/s"]), (0x2103, ["\u00b0c"]), (0x2105, ["c/o", "c/u"]),
   (0x2109, ["\u00b0f"]), (0x2116, ["no"]), (0x2120, ["sm", "tel", "tm"]), (0x213B, ["fax"]),
   (0x2150, ["1\u20447", "1\u20449", "1\u204410", "1\u20443", "2\u20443", "1\u20445", "2\u20445",
     "3\u20445", "4\u20445", "1\u20446", "5\u20446", "1\u20448", "3\u20448", "5\u20448",
     "7\u20448", "1\u2044"]), (0x2161, ["ii", "iii", "iv"]), (0x2165, ["vi", "vii", "viii", "ix"]),
   (0x216A, ["xi", "xii"]), (0x2171, ["ii", "iii", "iv"]), (0x2175, ["vi", "vii", "viii", "ix"]),
   (0x217A, ["xi", "xii"]), (0x2189, ["0\u20443"]),
   (0x222C, ["\u222b\u222b", "\u222b\u222b\u222b"]),
   (0x222F, ["\u222e\u222e", "\u222e\u222e\u222e"]),
   (0x2469, ["10", "11", "12", "13", "14", "15", "16", "17", "18", "19", "20", "(1)", "(2)", "(3)",
     "(4)", "(5)", "(6)", "(7)", "(8)", "(9)", "(10)", "(11)", "(12)", "(13)", "(14)", "(15)",
     "(16)", "(17)", "(18)", "(19)", "(20)"]),
   (0x249C, ["(a)", "(b)", "(c)", "(d)", "(e)", "(f)", "(g)", "(h)", "(i)", "(j)", "(k)", "(l)",
     "(m)", "(n)", "(o)", "(p)", "(q)", "(r)", "(s)", "(t)", "(u)", "(v)", "(w)", "(x)", "(y)",
     "(z)"]), (0x2A0C, ["\u222b\u222b\u222b\u222b"]), (0x2A74, ["::=", "==", "==="]),
   (0x2ADC, ["\u2add\u0338"]), (0x309B, [" \u3099", " \u309a"]), (0x309F, ["\u3088\u308a"]),
   (0x30FF, ["\u30b3\u30c8"]),
   (0x3200, ["(\u1100)", "(\u1102)", "(\u1103)", "(\u1105)", "(\u1106)", "(\u1107)", "(\u1109)",
     "(\u110b)", "(\u110c)", "(\u110e)", "(\u110f)", "(\u1110)", "(\u1111)", "(\u1112)",
     "(\uac00)", "(\ub098)", "(\ub2e4)", "(\ub77c)", "(\ub9c8)", "(\ubc14)", "(\uc0ac)",
     "(\uc544)", "(\uc790)", "(\ucc28)", "(\uce74)", "(\ud0c0)", "(\ud30c)", "(\ud558)",
     "(\uc8fc)", "(\uc624\uc804)", "(\uc624\ud6c4)"]),
   (0x3220, ["(一)", "(二)", "(三)", "(四)", "(五)", "(六)", "(七)", "(八)", "(九)", "(十)",
     "(月)", "(火)", "(水)", "(木)", "(金)", "(土)", "(日)", "(株)", "(有)", "(社)", "(名)",
     "(特)", "(財)", "(祝)", "(労)", "(代)", "(呼)", "(学)", "(監)", "(企)", "(資)", "(協)",
     "(祭)", "(休)", "(自)", "(至)"]),
   (0x3250, ["pte", "21", "22", "23", "24", "25", "26", "27", "28", "29", "30", "31", "32", "33",
     "34", "35"]), (0x327C, ["\ucc38\uace0", "\uc8fc\uc758"]),
   (0x32B1, ["36", "37", "38", "39", "40", "41", "42", "43", "44", "45", "46", "47", "48", "49",
     "50", "1月", "2月", "3月", "4月", "5月", "6月", "7月", "8月", "9月", "10月", "11月", "12月",
     "hg", "erg", "ev", "ltd"]),
   (0x32FF, ["令和", "\u30a2\u30d1\u30fc\u30c8", "\u30a2\u30eb\u30d5\u30a1",
     "\u30a2\u30f3\u30da\u30a2", "\u30a2\u30fc\u30eb", "\u30a4\u30cb\u30f3\u30b0",
     "\u30a4\u30f3\u30c1", "\u30a6\u30a9\u30f3", "\u30a8\u30b9\u30af\u30fc\u30c9",
     "\u30a8\u30fc\u30ab\u30fc", "\u30aa\u30f3\u30b9", "\u30aa\u30fc\u30e0", "\u30ab\u30a4\u30ea",
     "\u30ab\u30e9\u30c3\u30c8", "\u30ab\u30ed\u30ea\u30fc", "\u30ac\u30ed\u30f3",
     "\u30ac\u30f3\u30de", "\u30ae\u30ac", "\u30ae\u30cb\u30fc", "\u30ad\u30e5\u30ea\u30fc",
     "\u30ae\u30eb\u30c0\u30fc", "\u30ad\u30ed", "\u30ad\u30ed\u30b0\u30e9\u30e0",
     "\u30ad\u30ed\u30e1\u30fc\u30c8\u30eb", "\u30ad\u30ed\u30ef\u30c3\u30c8",
     "\u30b0\u30e9\u30e0", "\u30b0\u30e9\u30e0\u30c8\u30f3", "\u30af\u30eb\u30bc\u30a4\u30ed",
     "\u30af\u30ed\u30fc\u30cd", "\u30b1\u30fc\u30b9", "\u30b3\u30eb\u30ca", "\u30b3\u30fc\u30dd",
     "\u30b5\u30a4\u30af\u30eb", "\u30b5\u30f3\u30c1\u30fc\u30e0", "\u30b7\u30ea\u30f3\u30b0",
     "\u30bb\u30f3\u30c1", "\u30bb\u30f3\u30c8", "\u30c0\u30fc\u30b9", "\u30c7\u30b7",
     "\u30c9\u30eb", "\u30c8\u30f3", "\u30ca\u30ce", "\u30ce\u30c3\u30c8", "\u30cf\u30a4\u30c4",
     "\u30d1\u30fc\u30bb\u30f3\u30c8", "\u30d1\u30fc\u30c4", "\u30d0\u30fc\u30ec\u30eb",
     "\u30d4\u30a2\u30b9\u30c8\u30eb", "\u30d4\u30af\u30eb", "\u30d4\u30b3", "\u30d3\u30eb",
     "\u30d5\u30a1\u30e9\u30c3\u30c9", "\u30d5\u30a3\u30fc\u30c8",
     "\u30d6\u30c3\u30b7\u30a7\u30eb", "\u30d5\u30e9\u30f3", "\u30d8\u30af\u30bf\u30fc\u30eb",
     "\u30da\u30bd", "\u30da\u30cb\u30d2", "\u30d8\u30eb\u30c4", "\u30da\u30f3\u30b9",
     "\u30da\u30fc\u30b8", "\u30d9\u30fc\u30bf", "\u30dd\u30a4\u30f3\u30c8", "\u30dc\u30eb\u30c8",
     "\u30db\u30f3", "\u30dd\u30f3\u30c9", "\u30db\u30fc\u30eb", "\u30db\u30fc\u30f3",
     "\u30de\u30a4\u30af\u30ed", "\u30de\u30a4\u30eb", "\u30de\u30c3\u30cf", "\u30de\u30eb\u30af",
     "\u30de\u30f3\u30b7\u30e7\u30f3", "\u30df\u30af\u30ed\u30f3", "\u30df\u30ea",
     "\u30df\u30ea\u30d0\u30fc\u30eb", "\u30e1\u30ac", "\u30e1\u30ac\u30c8\u30f3",
     "\u30e1\u30fc\u30c8\u30eb", "\u30e4\u30fc\u30c9", "\u30e4\u30fc\u30eb", "\u30e6\u30a2\u30f3",
     "\u30ea\u30c3\u30c8\u30eb", "\u30ea\u30e9", "\u30eb\u30d4\u30fc", "\u30eb\u30fc\u30d6\u30eb",
     "\u30ec\u30e0", "\u30ec\u30f3\u30c8\u30b2\u30f3", "\u30ef\u30c3\u30c8", "0点", "1点", "2点",
     "3点", "4点", "5点", "6点", "7点", "8点", "9点", "10点", "11点", "12点", "13点", "14点",
     "15点", "16点", "17点", "18点", "19点", "20点", "21点", "22点", "23点", "24点", "hpa", "da",
     "au", "bar", "ov", "pc", "dm", "dm2", "dm3", "iu", "平成", "昭和", "大正", "明治", "株式会社",
     "pa", "na", "\u03bca", "ma", "ka", "kb", "mb", "gb", "cal", "kcal", "pf", "nf", "\u03bcf",
     "\u03bcg", "mg", "kg", "hz", "khz", "mhz", "ghz", "thz", "\u03bcl", "ml", "dl", "kl", "fm",
     "nm", "\u03bcm", "mm", "cm", "km", "mm2", "cm2", "m2", "km2", "mm3", "cm3", "m3", "km3",
     "m\u2215s", "m\u2215s2", "pa", "kpa", "mpa", "gpa", "rad", "rad\u2215s", "rad\u2215s2", "ps",
     "ns", "\u03bcs", "ms", "pv", "nv", "\u03bcv", "mv", "kv", "mv", "pw", "nw", "\u03bcw", "mw",
     "kw", "mw", "k\u03c9", "m\u03c9"]), (0x33C3, ["bq", "cc", "cd", "c\u2215kg"]),
   (0x33C8, ["db", "gy", "ha", "hp", "in", "kk", "km", "kt", "lm", "ln", "log", "lx", "mb", "mil",
     "mol", "ph"]),
   (0x33D9, ["ppm", "pr", "sr", "sv", "wb", "v\u2215m", "a\u2215m", "1日", "2日", "3日", "4日",
     "5日", "6日", "7日", "8日", "9日", "10日", "11日", "12日", "13日", "14日", "15日", "16日",
     "17日", "18日", "19日", "20日", "21日", "22日", "23日", "24日", "25日", "26日", "27日",
     "28日", "29日", "30日", "31日", "gal"]),
   (0xFB00, ["ff", "fi", "fl", "ffi", "ffl", "st", "st"]),
   (0xFB13, ["\u0574\u0576", "\u0574\u0565", "\u0574\u056b", "\u057e\u0576", "\u0574\u056d"]),
   (0xFB1D, ["\u05d9\u05b4"]), (0xFB1F, ["\u05f2\u05b7"]),
   (0xFB2A, ["\u05e9\u05c1", "\u05e9\u05c2", "\u05e9\u05bc\u05c1", "\u05e9\u05bc\u05c2",
     "\u05d0\u05b7", "\u05d0\u05b8", "\u05d0\u05bc", "\u05d1\u05bc", "\u05d2\u05bc",
     "\u05d3\u05bc", "\u05d4\u05bc", "\u05d5\u05bc", "\u05d6\u05bc"]),
   (0xFB38, ["\u05d8\u05bc", "\u05d9\u05bc", "\u05da\u05bc", "\u05db\u05bc", "\u05dc\u05bc"]),
   (0xFB3E, ["\u05de\u05bc"]), (0xFB40, ["\u05e0\u05bc", "\u05e1\u05bc"]),
   (0xFB43, ["\u05e3\u05bc", "\u05e4\u05bc"]),
   (0xFB46, ["\u05e6\u05bc", "\u05e7\u05bc", "\u05e8\u05bc", "\u05e9\u05bc", "\u05ea\u05bc",
     "\u05d5\u05b9", "\u05d1\u05bf", "\u05db\u05bf", "\u05e4\u05bf", "\u05d0\u05dc"]),
   (0xFBDD, ["\u06c7\u0674"]),
   (0xFBEA, ["\u0626\u0627", "\u0626\u0627", "\u0626\u06d5", "\u0626\u06d5", "\u0626\u0648",
     "\u0626\u0648", "\u0626\u06c7", "\u0626\u06c7", "\u0626\u06c6", "\u0626\u06c6",
     "\u0626\u06c8", "\u0626\u06c8", "\u0626\u06d0", "\u0626\u06d0", "\u0626\u06d0",
     "\u0626\u0649", "\u0626\u0649", "\u0626\u0649"]),
   (0xFC00, ["\u0626\u062c", "\u0626\u062d", "\u0626\u0645", "\u0626\u0649", "\u0626\u064a",
     "\u0628\u062c", "\u0628\u062d", "\u0628\u062e", "\u0628\u0645", "\u0628\u0649",
     "\u0628\u064a", "\u062a\u062c", "\u062a\u062d", "\u062a\u062e", "\u062a\u0645",
     "\u062a\u0649", "\u062a\u064a", "\u062b\u062c", "\u062b\u0645", "\u062b\u0649",
     "\u062b\u064a", "\u062c\u062d", "\u062c\u0645", "\u062d\u062c", "\u062d\u0645",
     "\u062e\u062c", "\u062e\u062d", "\u062e\u0645", "\u0633\u062c", "\u0633\u062d",
     "\u0633\u062e", "\u0633\u0645", "\u0635\u062d", "\u0635\u0645", "\u0636\u062c",
     "\u0636\u062d", "\u0636\u062e", "\u0636\u0645", "\u0637\u062d", "\u0637\u0645",
     "\u0638\u0645", "\u0639\u062c", "\u0639\u0645", "\u063a\u062c", "\u063a\u0645",
     "\u0641\u062c", "\u0641\u062d", "\u0641\u062e", "\u0641\u0645", "\u0641\u0649",
     "\u0641\u064a", "\u0642\u062d", "\u0642\u0645", "\u0642\u0649", "\u0642\u064a",
     "\u0643\u0627", "\u0643\u062c", "\u0643\u062d", "\u0643\u062e", "\u0643\u0644",
     "\u0643\u0645", "\u0643\u0649", "\u0643\u064a", "\u0644\u062c", "\u0644\u062d",
     "\u0644\u062e", "\u0644\u0645", "\u0644\u0649", "\u0644\u064a", "\u0645\u062c",
     "\u0645\u062d", "\u0645\u062e", "\u0645\u0645", "\u0645\u0649", "\u0645\u064a",
     "\u0646\u062c", "\u0646\u062d", "\u0646\u062e", "\u0646\u0645", "\u0646\u0649",
     "\u0646\u064a", "\u0647\u062c", "\u0647\u0645", "\u0647\u0649", "\u0647\u064a",
     "\u064a\u062c", "\u064a\u062d", "\u064a\u062e", "\u064a\u0645", "\u064a\u0649",
     "\u064a\u064a", "\u0630\u0670", "\u0631\u0670", "\u0649\u0670", " \u064c\u0651",
     " \u064d\u0651", " \u064e\u0651", " \u064f\u0651", " \u0650\u0651", " \u0651\u0670",
     "\u0626\u0631", "\u0626\u0632", "\u0626\u0645", "\u0626\u0646", "\u0626\u0649",
     "\u0626\u064a", "\u0628\u0631", "\u0628\u0632", "\u0628\u0645", "\u0628\u0646",
     "\u0628\u0649", "\u0628\u064a", "\u062a\u0631", "\u062a\u0632", "\u062a\u0645",
     "\u062a\u0646", "\u062a\u0649", "\u062a\u064a", "\u062b\u0631", "\u062b\u0632",
     "\u062b\u0645", "\u062b\u0646", "\u062b\u0649", "\u062b\u064a", "\u0641\u0649",
     "\u0641\u064a", "\u0642\u0649", "\u0642\u064a", "\u0643\u0627", "\u0643\u0644",
     "\u0643\u0645", "\u0643\u0649", "\u0643\u064a", "\u0644\u0645", "\u0644\u0649",
     "\u0644\u064a", "\u0645\u0627", "\u0645\u0645", "\u0646\u0631", "\u0646\u0632",
     "\u0646\u0645", "\u0646\u0646", "\u0646\u0649", "\u0646\u064a", "\u0649\u0670",
     "\u064a\u0631", "\u064a\u0632", "\u064a\u0645", "\u064a\u0646", "\u064a\u0649",
     "\u064a\u064a", "\u0626\u062c", "\u0626\u062d", "\u0626\u062e", "\u0626\u0645",
     "\u0626\u0647", "\u0628\u062c", "\u0628\u062d", "\u0628\u062e", "\u0628\u0645",
     "\u0628\u0647", "\u062a\u062c", "\u062a\u062d", "\u062a\u062e", "\u062a\u0645",
     "\u062a\u0647", "\u062b\u0645", "\u062c\u062d", "\u062c\u0645", "\u062d\u062c",
     "\u062d\u0645", "\u062e\u062c", "\u062e\u0645", "\u0633\u062c", "\u0633\u062d",
     "\u0633\u062e", "\u0633\u0645", "\u0635\u062d", "\u0635\u062e", "\u0635\u0645",
     "\u0636\u062c", "\u0636\u062d", "\u0636\u062e", "\u0636\u0645", "\u0637\u062d",
     "\u0638\u0645", "\u0639\u062c", "\u0639\u0645", "\u063a\u062c", "\u063a\u0645",
     "\u0641\u062c", "\u0641\u062d", "\u0641\u062e", "\u0641\u0645", "\u0642\u062d",
     "\u0642\u0645", "\u0643\u062c", "\u0643\u062d", "\u0643\u062e", "\u0643\u0644",
     "\u0643\u0645", "\u0644\u062c", "\u0644\u062d", "\u0644\u062e", "\u0644\u0645",
     "\u0644\u0647", "\u0645\u062c", "\u0645\u062d", "\u0645\u062e", "\u0645\u0645",
     "\u0646\u062c", "\u0646\u062d", "\u0646\u062e", "\u0646\u0645", "\u0646\u0647",
     "\u0647\u062c", "\u0647\u0645", "\u0647\u0670", "\u064a\u062c", "\u064a\u062d",
     "\u064a\u062e", "\u064a\u0645", "\u064a\u0647", "\u0626\u0645", "\u0626\u0647",
     "\u0628\u0645", "\u0628\u0647", "\u062a\u0645", "\u062a\u0647", "\u062b\u0645",
     "\u062b\u0647", "\u0633\u0645", "\u0633\u0647", "\u0634\u0645", "\u0634\u0647",
     "\u0643\u0644", "\u0643\u0645", "\u0644\u0645", "\u0646\u0645", "\u0646\u0647",
     "\u064a\u0645", "\u064a\u0647", "\u0640\u064e\u0651", "\u0640\u064f\u0651",
     "\u0640\u0650\u0651", "\u0637\u0649", "\u0637\u064a", "\u0639\u0649", "\u0639\u064a",
     "\u063a\u0649", "\u063a\u064a", "\u0633\u0649", "\u0633\u064a", "\u0634\u0649",
     "\u0634\u064a", "\u062d\u0649", "\u062d\u064a", "\u062c\u0649", "\u062c\u064a",
     "\u062e\u0649", "\u062e\u064a", "\u0635\u0649", "\u0635\u064a", "\u0636\u0649",
     "\u0636\u064a", "\u0634\u062c", "\u0634\u062d", "\u0634\u062e", "\u0634\u0645",
     "\u0634\u0631", "\u0633\u0631", "\u0635\u0631", "\u0636\u0631", "\u0637\u0649",
     "\u0637\u064a", "\u0639\u0649", "\u0639\u064a", "\u063a\u0649", "\u063a\u064a",
     "\u0633\u0649", "\u0633\u064a", "\u0634\u0649", "\u0634\u064a", "\u062d\u0649",
     "\u062d\u064a", "\u062c\u0649", "\u062c\u064a", "\u062e\u0649", "\u062e\u064a",
     "\u0635\u0649", "\u0635\u064a", "\u0636\u0649", "\u0636\u064a", "\u0634\u062c",
     "\u0634\u062d", "\u0634\u062e", "\u0634\u0645", "\u0634\u0631", "\u0633\u0631",
     "\u0635\u0631", "\u0636\u0631", "\u0634\u062c", "\u0634\u062d", "\u0634\u062e",
     "\u0634\u0645", "\u0633\u0647", "\u0634\u0647", "\u0637\u0645", "\u0633\u062c",
     "\u0633\u062d", "\u0633\u062e", "\u0634\u062c", "\u0634\u062d", "\u0634\u062e",
     "\u0637\u0645", "\u0638\u0645", "\u0627\u064b", "\u0627\u064b"]),
   (0xFD50, ["\u062a\u062c\u0645", "\u062a\u062d\u062c", "\u062a\u062d\u062c",
     "\u062a\u062d\u0645", "\u062a\u062e\u0645", "\u062a\u0645\u062c", "\u062a\u0645\u062d",
     "\u062a\u0645\u062e", "\u062c\u0645\u062d", "\u062c\u0645\u062d", "\u062d\u0645\u064a",
     "\u062d\u0645\u0649", "\u0633\u062d\u062c", "\u0633\u062c\u062d", "\u0633\u062c\u0649",
     "\u0633\u0645\u062d", "\u0633\u0645\u062d", "\u0633\u0645\u062c", "\u0633\u0645\u0645",
     "\u0633\u0645\u0645", "\u0635\u062d\u062d", "\u0635\u062d\u062d", "\u0635\u0645\u0645",
     "\u0634\u062d\u0645", "\u0634\u062d\u0645", "\u0634\u062c\u064a", "\u0634\u0645\u062e",
     "\u0634\u0645\u062e", "\u0634\u0645\u0645", "\u0634\u0645\u0645", "\u0636\u062d\u0649",
     "\u0636\u062e\u0645", "\u0636\u062e\u0645", "\u0637\u0645\u062d", "\u0637\u0645\u062d",
     "\u0637\u0645\u0645", "\u0637\u0645\u064a", "\u0639\u062c\u0645", "\u0639\u0645\u0645",
     "\u0639\u0645\u0645", "\u0639\u0645\u0649", "\u063a\u0645\u0645", "\u063a\u0645\u064a",
     "\u063a\u0645\u0649", "\u0641\u062e\u0645", "\u0641\u062e\u0645", "\u0642\u0645\u062d",
     "\u0642\u0645\u0645", "\u0644\u062d\u0645", "\u0644\u062d\u064a", "\u0644\u062d\u0649",
     "\u0644\u062c\u062c", "\u0644\u062c\u062c", "\u0644\u062e\u0645", "\u0644\u062e\u0645",
     "\u0644\u0645\u062d", "\u0644\u0645\u062d", "\u0645\u062d\u062c", "\u0645\u062d\u0645",
     "\u0645\u062d\u064a", "\u0645\u062c\u062d", "\u0645\u062c\u0645", "\u0645\u062e\u062c",
     "\u0645\u062e\u0645"]),
   (0xFD92, ["\u0645\u062c\u062e", "\u0647\u0645\u062c", "\u0647\u0645\u0645",
     "\u0646\u062d\u0645", "\u0646\u062d\u0649", "\u0646\u062c\u0645", "\u0646\u062c\u0645",
     "\u0646\u062c\u0649", "\u0646\u0645\u064a", "\u0646\u0645\u0649", "\u064a\u0645\u0645",
     "\u064a\u0645\u0645", "\u0628\u062e\u064a", "\u062a\u062c\u064a", "\u062a\u062c\u0649",
     "\u062a\u062e\u064a", "\u062a\u062e\u0649", "\u062a\u0645\u064a", "\u062a\u0645\u0649",
     "\u062c\u0645\u064a", "\u062c\u062d\u0649", "\u062c\u0645\u0649", "\u0633\u062e\u0649",
     "\u0635\u062d\u064a", "\u0634\u062d\u064a", "\u0636\u062d\u064a", "\u0644\u062c\u064a",
     "\u0644\u0645\u064a", "\u064a\u062d\u064a", "\u064a\u062c\u064a", "\u064a\u0645\u064a",
     "\u0645\u0645\u064a", "\u0642\u0645\u064a", "\u0646\u062d\u064a", "\u0642\u0645\u062d",
     "\u0644\u062d\u0645", "\u0639\u0645\u064a", "\u0643\u0645\u064a", "\u0646\u062c\u062d",
     "\u0645\u062e\u064a", "\u0644\u062c\u0645", "\u0643\u0645\u0645", "\u0644\u062c\u0645",
     "\u0646\u062c\u062d", "\u062c\u062d\u064a", "\u062d\u062c\u064a", "\u0645\u062c\u064a",
     "\u0641\u0645\u064a", "\u0628\u062d\u064a", "\u0643\u0645\u0645", "\u0639\u062c\u0645",
     "\u0635\u0645\u0645", "\u0633\u062e\u064a", "\u0646\u062c\u064a"]),
   (0xFDF0, ["\u0635\u0644\u06d2", "\u0642\u0644\u06d2", "\u0627\u0644\u0644\u0647",
     "\u0627\u0643\u0628\u0631", "\u0645\u062d\u0645\u062f", "\u0635\u0644\u0639\u0645",
     "\u0631\u0633\u0648\u0644", "\u0639\u0644\u064a\u0647", "\u0648\u0633\u0644\u0645",
     "\u0635\u0644\u0649",
     "\u0635\u0644\u0649 \u0627\u0644\u0644\u0647 \u0639\u0644\u064a\u0647 \u0648\u0633\u0644\u0645",
     "\u062c\u0644 \u062c\u0644\u0627\u0644\u0647", "\u0631\u06cc\u0627\u0644"]),
   (0xFE49, [" \u0305", " \u0305", " \u0305", " \u0305"]),
   (0xFE70, [" \u064b", "\u0640\u064b", " \u064c"]), (0xFE74, [" \u064d"]),
   (0xFE76, [" \u064e", "\u0640\u064e", " \u064f", "\u0640\u064f", " \u0650", "\u0640\u0650",
     " \u0651", "\u0640\u0651", " \u0652", "\u0640\u0652"]),
   (0xFEF5, ["\u0644\u0622", "\u0644\u0622", "\u0644\u0623", "\u0644\u0623", "\u0644\u0625",
     "\u0644\u0625", "\u0644\u0627", "\u0644\u0627"]), (0xFFE3, [" \u0304"]),
   (0x1D15E, ["𝅗𝅥", "𝅘𝅥", "𝅘𝅥𝅮", "𝅘𝅥𝅯", "𝅘𝅥𝅰", "𝅘𝅥𝅱", "𝅘𝅥𝅲"]),
   (0x1D1BB, ["𝆹𝅥", "𝆺𝅥", "𝆹𝅥𝅮", "𝆺𝅥𝅮", "𝆹𝅥𝅯", "𝆺𝅥𝅯"]),
   (0x1F101, ["0,", "1,", "2,", "3,", "4,", "5,", "6,", "7,", "8,", "9,"]),
   (0x1F110, ["(a)", "(b)", "(c)", "(d)", "(e)", "(f)", "(g)", "(h)", "(i)", "(j)", "(k)", "(l)",
     "(m)", "(n)", "(o)", "(p)", "(q)", "(r)", "(s)", "(t)", "(u)", "(v)", "(w)", "(x)", "(y)",
     "(z)", "\u3014s\u3015"]), (0x1F12D, ["cd", "wz"]),
   (0x1F14A, ["hv", "mv", "sd", "ss", "ppv", "wc"]), (0x1F16A, ["mc", "md", "mr"]),
   (0x1F190, ["dj"]), (0x1F200, ["\u307b\u304b", "\u30b3\u30b3"]),
   (0x1F240, ["\u3014本\u3015", "\u3014三\u3015", "\u3014二\u3015", "\u3014安\u3015",
     "\u3014点\u3015", "\u3014打\u3015", "\u3014盗\u3015", "\u3014勝\u3015", "\u3014敗\u3015"])]

/-- What a member of a run stands for. -/
def ofRun? (n : Nat) : Nat × Nat × Nat × Nat → Option (List Char)
  | (low, high, apart, first) =>
    if low ≤ n ∧ n ≤ high ∧ (n - low) % apart = 0 then some [Char.ofNat (first + (n - low))] else none

/-- What a member of a row stands for. -/
def ofRow? (n : Nat) : Nat × String → Option (List Char)
  | (low, row) => if low ≤ n then row.toList[n - low]?.map ([·]) else none

/-- What a member of a row stands for that stands for several characters. -/
def ofSpelledOut? (n : Nat) : Nat × List String → Option (List Char)
  | (low, row) => if low ≤ n then row[n - low]?.map String.toList else none

/-- What a character stands for other than itself. -/
def standIn? (c : Char) : Option (List Char) :=
  runs.findSome? (ofRun? c.toNat) <|> rows.findSome? (ofRow? c.toNat) <|>
    spelledOut.findSome? (ofSpelledOut? c.toNat)

end FileServer.Domain
