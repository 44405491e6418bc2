import DocBridge.Text.Table

/-!
# What characters of a domain name are read as

A domain name is read without some characters, and others stand for one or several others: a letter
for its lowercase, a form of a letter for the letter, a sign made of letters for the letters.  What
the tables leave out is read as its own lowercase.  Characters with a canonical decomposition are
left out too, since their parts are read.  Every table is in increasing order and its ranges do not
overlap.
-/

namespace DocBridge.DomainTable

/-- The characters that a domain name is read without. -/
def ignored : List (Nat × Nat) :=
  [(0xAD, 0xAD), (0x34F, 0x34F), (0x115F, 0x1160), (0x17B4, 0x17B5), (0x180B, 0x180F),
    (0x200B, 0x200B), (0x2060, 0x2064), (0x206A, 0x206F), (0x3164, 0x3164), (0xFE00, 0xFE0F),
    (0xFEFF, 0xFEFF), (0xFFA0, 0xFFA0), (0x1BCA0, 0x1BCA3), (0x1D173, 0x1D17A), (0xE0100, 0xE01EF)]

/-- The characters with a shape that no domain name may hold, or that stand for a text with one. -/
def refused : List (Nat × Nat) :=
  [(0xA8, 0xA8), (0xAF, 0xAF), (0xB4, 0xB4), (0xB8, 0xB8), (0x2D8, 0x2DD), (0x37A, 0x37A),
    (0x384, 0x384), (0x1FBD, 0x1FBD), (0x1FBF, 0x1FC0), (0x1FFE, 0x1FFE), (0x2017, 0x2017),
    (0x2024, 0x2026), (0x203E, 0x203E), (0x2047, 0x2049), (0x2100, 0x2101), (0x2105, 0x2106),
    (0x2488, 0x249B), (0x2A74, 0x2A74), (0x2FF0, 0x2FFF), (0x309B, 0x309C), (0x31EF, 0x31EF),
    (0x33C2, 0x33C2), (0x33C7, 0x33C7), (0x33D8, 0x33D8), (0xFC5E, 0xFC63), (0xFDFA, 0xFDFB),
    (0xFE12, 0xFE13), (0xFE16, 0xFE16), (0xFE19, 0xFE19), (0xFE30, 0xFE30), (0xFE47, 0xFE4C),
    (0xFE52, 0xFE52), (0xFE55, 0xFE56), (0xFE5F, 0xFE5F), (0xFE64, 0xFE65), (0xFE68, 0xFE68),
    (0xFE6A, 0xFE6B), (0xFE70, 0xFE70), (0xFE72, 0xFE72), (0xFE74, 0xFE74), (0xFE76, 0xFE76),
    (0xFE78, 0xFE78), (0xFE7A, 0xFE7A), (0xFE7C, 0xFE7C), (0xFE7E, 0xFE7E), (0xFFE3, 0xFFE3),
    (0xFFFC, 0xFFFD), (0x1F100, 0x1F100)]

/-- The characters without a shape that a domain name may hold. -/
def shapeless : List (Nat × Nat) :=
  [(0x200C, 0x200D), (0x18E00, 0x191D2), (0x3D000, 0x3FC3F)]

/-- The characters that stand for another at a distance.  Those at no distance are themselves read
as no other. -/
def shifts : List Shift :=
  [⟨0x13A0, 0x13F5, 1, 0⟩, ⟨0x13F8, 0x13FD, 1, -8⟩, ⟨0x1D33, 0x1D3A, 1, -7372⟩,
    ⟨0x1DAE, 0x1DB1, 1, -6972⟩, ⟨0x2074, 0x2079, 1, -8256⟩, ⟨0x2080, 0x2089, 1, -8272⟩,
    ⟨0x2096, 0x2099, 1, -8235⟩, ⟨0x2135, 0x2138, 1, -7013⟩, ⟨0x2460, 0x2468, 1, -9263⟩,
    ⟨0x24B6, 0x24CF, 1, -9301⟩, ⟨0x24D0, 0x24E9, 1, -9327⟩, ⟨0x313A, 0x313F, 1, -8074⟩,
    ⟨0x3145, 0x314E, 1, -8252⟩, ⟨0x314F, 0x3163, 1, -8174⟩, ⟨0x3178, 0x317C, 1, -8269⟩,
    ⟨0x3269, 0x326D, 1, -8539⟩, ⟨0x32E4, 0x32E9, 1, -538⟩, ⟨0x32EE, 0x32F2, 1, -528⟩,
    ⟨0x32F5, 0x32FA, 1, -525⟩, ⟨0x32FB, 0x32FE, 1, -524⟩, ⟨0xAB70, 0xABBF, 1, -38864⟩,
    ⟨0xFE37, 0xFE37, 1, -64956⟩, ⟨0xFE38, 0xFE38, 1, -64955⟩, ⟨0xFE41, 0xFE44, 1, -52789⟩,
    ⟨0xFE5B, 0xFE5B, 1, -64992⟩, ⟨0xFE5C, 0xFE5C, 1, -64991⟩, ⟨0xFF01, 0xFF20, 1, -65248⟩,
    ⟨0xFF21, 0xFF3A, 1, -65216⟩, ⟨0xFF3B, 0xFF5E, 1, -65248⟩, ⟨0xFF85, 0xFF8A, 1, -52923⟩,
    ⟨0xFF8F, 0xFF93, 1, -52913⟩, ⟨0xFF96, 0xFF9B, 1, -52910⟩, ⟨0xFF9E, 0xFF9E, 1, -52997⟩,
    ⟨0xFF9F, 0xFF9F, 1, -52997⟩, ⟨0xFFAA, 0xFFAF, 1, -60922⟩, ⟨0xFFB5, 0xFFBE, 1, -61100⟩,
    ⟨0xFFC2, 0xFFC7, 1, -61025⟩, ⟨0xFFCA, 0xFFCF, 1, -61027⟩, ⟨0xFFD2, 0xFFD7, 1, -61029⟩,
    ⟨0xFFE9, 0xFFEC, 1, -56921⟩, ⟨0x1CCD6, 0x1CCEF, 1, -117877⟩, ⟨0x1CCF0, 0x1CCF9, 1, -117952⟩,
    ⟨0x1D400, 0x1D419, 1, -119711⟩, ⟨0x1D41A, 0x1D433, 1, -119737⟩, ⟨0x1D434, 0x1D44D, 1, -119763⟩,
    ⟨0x1D44E, 0x1D454, 1, -119789⟩, ⟨0x1D456, 0x1D467, 1, -119789⟩, ⟨0x1D468, 0x1D481, 1, -119815⟩,
    ⟨0x1D482, 0x1D49B, 1, -119841⟩, ⟨0x1D4A9, 0x1D4AC, 1, -119867⟩, ⟨0x1D4AE, 0x1D4B5, 1, -119867⟩,
    ⟨0x1D4B6, 0x1D4B9, 1, -119893⟩, ⟨0x1D4BD, 0x1D4C3, 1, -119893⟩, ⟨0x1D4C5, 0x1D4CF, 1, -119893⟩,
    ⟨0x1D4D0, 0x1D4E9, 1, -119919⟩, ⟨0x1D4EA, 0x1D503, 1, -119945⟩, ⟨0x1D507, 0x1D50A, 1, -119971⟩,
    ⟨0x1D50D, 0x1D514, 1, -119971⟩, ⟨0x1D516, 0x1D51C, 1, -119971⟩, ⟨0x1D51E, 0x1D537, 1, -119997⟩,
    ⟨0x1D53B, 0x1D53E, 1, -120023⟩, ⟨0x1D540, 0x1D544, 1, -120023⟩, ⟨0x1D54A, 0x1D550, 1, -120023⟩,
    ⟨0x1D552, 0x1D56B, 1, -120049⟩, ⟨0x1D56C, 0x1D585, 1, -120075⟩, ⟨0x1D586, 0x1D59F, 1, -120101⟩,
    ⟨0x1D5A0, 0x1D5B9, 1, -120127⟩, ⟨0x1D5BA, 0x1D5D3, 1, -120153⟩, ⟨0x1D5D4, 0x1D5ED, 1, -120179⟩,
    ⟨0x1D5EE, 0x1D607, 1, -120205⟩, ⟨0x1D608, 0x1D621, 1, -120231⟩, ⟨0x1D622, 0x1D63B, 1, -120257⟩,
    ⟨0x1D63C, 0x1D655, 1, -120283⟩, ⟨0x1D656, 0x1D66F, 1, -120309⟩, ⟨0x1D670, 0x1D689, 1, -120335⟩,
    ⟨0x1D68A, 0x1D6A3, 1, -120361⟩, ⟨0x1D6A8, 0x1D6B8, 1, -119543⟩, ⟨0x1D6BA, 0x1D6C0, 1, -119543⟩,
    ⟨0x1D6C2, 0x1D6D2, 1, -119569⟩, ⟨0x1D6D4, 0x1D6DA, 1, -119569⟩, ⟨0x1D6E2, 0x1D6F2, 1, -119601⟩,
    ⟨0x1D6F4, 0x1D6FA, 1, -119601⟩, ⟨0x1D6FC, 0x1D70C, 1, -119627⟩, ⟨0x1D70E, 0x1D714, 1, -119627⟩,
    ⟨0x1D71C, 0x1D72C, 1, -119659⟩, ⟨0x1D72E, 0x1D734, 1, -119659⟩, ⟨0x1D736, 0x1D746, 1, -119685⟩,
    ⟨0x1D748, 0x1D74E, 1, -119685⟩, ⟨0x1D756, 0x1D766, 1, -119717⟩, ⟨0x1D768, 0x1D76E, 1, -119717⟩,
    ⟨0x1D770, 0x1D780, 1, -119743⟩, ⟨0x1D782, 0x1D788, 1, -119743⟩, ⟨0x1D790, 0x1D7A0, 1, -119775⟩,
    ⟨0x1D7A2, 0x1D7A8, 1, -119775⟩, ⟨0x1D7AA, 0x1D7BA, 1, -119801⟩, ⟨0x1D7BC, 0x1D7C2, 1, -119801⟩,
    ⟨0x1D7CE, 0x1D7D7, 1, -120734⟩, ⟨0x1D7D8, 0x1D7E1, 1, -120744⟩, ⟨0x1D7E2, 0x1D7EB, 1, -120754⟩,
    ⟨0x1D7EC, 0x1D7F5, 1, -120764⟩, ⟨0x1D7F6, 0x1D7FF, 1, -120774⟩, ⟨0x1E030, 0x1E038, 1, -121856⟩,
    ⟨0x1E03C, 0x1E046, 1, -121854⟩, ⟨0x1E051, 0x1E059, 1, -121889⟩, ⟨0x1E05F, 0x1E064, 1, -121884⟩,
    ⟨0x1EE0A, 0x1EE0D, 1, -124871⟩, ⟨0x1EE2A, 0x1EE2D, 1, -124903⟩, ⟨0x1F130, 0x1F149, 1, -127183⟩,
    ⟨0x1FBF0, 0x1FBF9, 1, -129984⟩]

def words : List Stretch :=
  [⟨0xAA, 0xAA, "a"⟩, ⟨0xB2, 0xB3, "2 3"⟩, ⟨0xB5, 0xB5, "μ"⟩, ⟨0xB9, 0xBA, "1 o"⟩,
    ⟨0xBC, 0xBE, "1⁄4 1⁄2 3⁄4"⟩, ⟨0x132, 0x133, "ij ij"⟩, ⟨0x13F, 0x140, "l· l·"⟩,
    ⟨0x149, 0x149, "ʼn"⟩, ⟨0x17F, 0x17F, "s"⟩, ⟨0x1C4, 0x1CC, "dž dž dž lj lj lj nj nj nj"⟩,
    ⟨0x1F1, 0x1F3, "dz dz dz"⟩, ⟨0x2B0, 0x2B8, "h ɦ j r ɹ ɻ ʁ w y"⟩, ⟨0x2E0, 0x2E4, "ɣ l s x ʕ"⟩,
    ⟨0x345, 0x345, "ι"⟩, ⟨0x3D0, 0x3D2, "β θ υ"⟩, ⟨0x3D5, 0x3D6, "φ π"⟩, ⟨0x3F0, 0x3F2, "κ ρ σ"⟩,
    ⟨0x3F5, 0x3F5, "ε"⟩, ⟨0x3F9, 0x3F9, "σ"⟩, ⟨0x587, 0x587, "եւ"⟩, ⟨0x675, 0x678, "اٴ وٴ ۇٴ يٴ"⟩,
    ⟨0xE33, 0xE33, "\u0e4d\u0e32"⟩, ⟨0xEB3, 0xEB3, "\u0ecd\u0eb2"⟩, ⟨0xEDC, 0xEDD, "ຫນ ຫມ"⟩,
    ⟨0xF0C, 0xF0C, "་"⟩, ⟨0xF77, 0xF77, "\u0fb2\u0f71\u0f80"⟩, ⟨0xF79, 0xF79, "\u0fb3\u0f71\u0f80"⟩,
    ⟨0x10FC, 0x10FC, "ნ"⟩, ⟨0x1C80, 0x1C88, "в д о с т т ъ ѣ ꙋ"⟩, ⟨0x1D2C, 0x1D2E, "a æ b"⟩,
    ⟨0x1D30, 0x1D32, "d e ǝ"⟩, ⟨0x1D3C, 0x1D4D, "o ȣ p r t u w a ɐ ɑ ᴂ b d e ə ɛ ɜ g"⟩,
    ⟨0x1D4F, 0x1D6A, "k m ŋ o ɔ ᴖ ᴗ p t u ᴝ ɯ v ᴥ β γ δ φ χ i r u v β γ ρ φ χ"⟩,
    ⟨0x1D78, 0x1D78, "н"⟩, ⟨0x1D9B, 0x1DAD, "ɒ c ɕ ð ɜ f ɟ ɡ ɥ ɨ ɩ ɪ ᵻ ʝ ɭ ᶅ ʟ ɱ ɰ"⟩,
    ⟨0x1DB2, 0x1DBF, "ɸ ʂ ʃ ƫ ʉ ʊ ᴜ ʋ ʌ z ʐ ʑ ʒ θ"⟩, ⟨0x1E9A, 0x1E9A, "aʾ"⟩, ⟨0x2011, 0x2011, "‐"⟩,
    ⟨0x2033, 0x2034, "′′ ′′′"⟩, ⟨0x2036, 0x2037, "‵‵ ‵‵‵"⟩, ⟨0x203C, 0x203C, "!!"⟩,
    ⟨0x2057, 0x2057, "′′′′"⟩, ⟨0x2070, 0x2071, "0 i"⟩, ⟨0x207A, 0x207F, "+ − = ( ) n"⟩,
    ⟨0x208A, 0x208E, "+ − = ( )"⟩, ⟨0x2090, 0x2095, "a e o x ə h"⟩, ⟨0x209A, 0x209C, "p s t"⟩,
    ⟨0x20A8, 0x20A8, "rs"⟩, ⟨0x2102, 0x2103, "c °c"⟩, ⟨0x2107, 0x2107, "ɛ"⟩,
    ⟨0x2109, 0x2113, "°f g h h h h ħ i i l l"⟩, ⟨0x2115, 0x2116, "n no"⟩,
    ⟨0x2119, 0x211D, "p q r r r"⟩, ⟨0x2120, 0x2122, "sm tel tm"⟩, ⟨0x2124, 0x2124, "z"⟩,
    ⟨0x2128, 0x2128, "z"⟩, ⟨0x212C, 0x212D, "b c"⟩, ⟨0x212F, 0x2131, "e e f"⟩,
    ⟨0x2133, 0x2134, "m o"⟩, ⟨0x2139, 0x2139, "i"⟩, ⟨0x213B, 0x2140, "fax π γ γ π ∑"⟩,
    ⟨0x2145, 0x2149, "d d e i j"⟩,
    ⟨0x2150, 0x2162, "1⁄7 1⁄9 1⁄10 1⁄3 2⁄3 1⁄5 2⁄5 3⁄5 4⁄5 1⁄6 5⁄6 1⁄8 3⁄8 5⁄8 7⁄8 1⁄ i ii iii"⟩,
    ⟨0x2163, 0x217A, "iv v vi vii viii ix x xi xii l c d m i ii iii iv v vi vii viii ix x xi"⟩,
    ⟨0x217B, 0x217F, "xii l c d m"⟩, ⟨0x2189, 0x2189, "0⁄3"⟩, ⟨0x222C, 0x222D, "∫∫ ∫∫∫"⟩,
    ⟨0x222F, 0x2230, "∮∮ ∮∮∮"⟩,
    ⟨0x2469, 0x247C, "10 11 12 13 14 15 16 17 18 19 20 (1) (2) (3) (4) (5) (6) (7) (8) (9)"⟩,
    ⟨0x247D, 0x2487, "(10) (11) (12) (13) (14) (15) (16) (17) (18) (19) (20)"⟩,
    ⟨0x249C, 0x24AD, "(a) (b) (c) (d) (e) (f) (g) (h) (i) (j) (k) (l) (m) (n) (o) (p) (q) (r)"⟩,
    ⟨0x24AE, 0x24B5, "(s) (t) (u) (v) (w) (x) (y) (z)"⟩, ⟨0x24EA, 0x24EA, "0"⟩,
    ⟨0x2A0C, 0x2A0C, "∫∫∫∫"⟩, ⟨0x2A75, 0x2A76, "== ==="⟩, ⟨0x2C7C, 0x2C7D, "j v"⟩,
    ⟨0x2D6F, 0x2D6F, "ⵡ"⟩, ⟨0x2E9F, 0x2E9F, "母"⟩, ⟨0x2EF3, 0x2EF3, "龟"⟩,
    ⟨0x2F00, 0x2F17, "一 丨 丶 丿 乙 亅 二 亠 人 儿 入 八 冂 冖 冫 几 凵 刀 力 勹 匕 匚 匸 十"⟩,
    ⟨0x2F18, 0x2F2F, "卜 卩 厂 厶 又 口 囗 土 士 夂 夊 夕 大 女 子 宀 寸 小 尢 尸 屮 山 巛 工"⟩,
    ⟨0x2F30, 0x2F47, "己 巾 干 幺 广 廴 廾 弋 弓 彐 彡 彳 心 戈 戶 手 支 攴 文 斗 斤 方 无 日"⟩,
    ⟨0x2F48, 0x2F5F, "曰 月 木 欠 止 歹 殳 毋 比 毛 氏 气 水 火 爪 父 爻 爿 片 牙 牛 犬 玄 玉"⟩,
    ⟨0x2F60, 0x2F77, "瓜 瓦 甘 生 用 田 疋 疒 癶 白 皮 皿 目 矛 矢 石 示 禸 禾 穴 立 竹 米 糸"⟩,
    ⟨0x2F78, 0x2F8F, "缶 网 羊 羽 老 而 耒 耳 聿 肉 臣 自 至 臼 舌 舛 舟 艮 色 艸 虍 虫 血 行"⟩,
    ⟨0x2F90, 0x2FA7, "衣 襾 見 角 言 谷 豆 豕 豸 貝 赤 走 足 身 車 辛 辰 辵 邑 酉 釆 里 金 長"⟩,
    ⟨0x2FA8, 0x2FBF, "門 阜 隶 隹 雨 靑 非 面 革 韋 韭 音 頁 風 飛 食 首 香 馬 骨 高 髟 鬥 鬯"⟩,
    ⟨0x2FC0, 0x2FD5, "鬲 鬼 魚 鳥 鹵 鹿 麥 麻 黃 黍 黑 黹 黽 鼎 鼓 鼠 鼻 齊 齒 龍 龜 龠"⟩,
    ⟨0x3002, 0x3002, "."⟩, ⟨0x3036, 0x3036, "〒"⟩, ⟨0x3038, 0x303A, "十 卄 卅"⟩,
    ⟨0x309F, 0x309F, "より"⟩, ⟨0x30FF, 0x30FF, "コト"⟩, ⟨0x3131, 0x3139, "ᄀ ᄁ ᆪ ᄂ ᆬ ᆭ ᄃ ᄄ ᄅ"⟩,
    ⟨0x3140, 0x3144, "ᄚ ᄆ ᄇ ᄈ ᄡ"⟩,
    ⟨0x3165, 0x3177, "ᄔ ᄕ ᇇ ᇈ ᇌ ᇎ ᇓ ᇗ ᇙ ᄜ ᇝ ᇟ ᄝ ᄞ ᄠ ᄢ ᄣ ᄧ ᄩ"⟩,
    ⟨0x317D, 0x318E, "ᄲ ᄶ ᅀ ᅇ ᅌ ᇱ ᇲ ᅗ ᅘ ᅙ ᆄ ᆅ ᆈ ᆑ ᆒ ᆔ ᆞ ᆡ"⟩,
    ⟨0x3192, 0x319F, "一 二 三 四 上 中 下 甲 乙 丙 丁 天 地 人"⟩,
    ⟨0x3200, 0x320D, "(ᄀ) (ᄂ) (ᄃ) (ᄅ) (ᄆ) (ᄇ) (ᄉ) (ᄋ) (ᄌ) (ᄎ) (ᄏ) (ᄐ) (ᄑ) (ᄒ)"⟩,
    ⟨0x320E, 0x321B, "(가) (나) (다) (라) (마) (바) (사) (아) (자) (차) (카) (타) (파) (하)"⟩,
    ⟨0x321C, 0x321E, "(주) (오전) (오후)"⟩,
    ⟨0x3220, 0x322D, "(一) (二) (三) (四) (五) (六) (七) (八) (九) (十) (月) (火) (水) (木)"⟩,
    ⟨0x322E, 0x323B, "(金) (土) (日) (株) (有) (社) (名) (特) (財) (祝) (労) (代) (呼) (学)"⟩,
    ⟨0x323C, 0x3247, "(監) (企) (資) (協) (祭) (休) (自) (至) 問 幼 文 箏"⟩,
    ⟨0x3250, 0x3267, "pte 21 22 23 24 25 26 27 28 29 30 31 32 33 34 35 ᄀ ᄂ ᄃ ᄅ ᄆ ᄇ ᄉ ᄋ"⟩,
    ⟨0x3268, 0x3268, "ᄌ"⟩,
    ⟨0x326E, 0x327E, "가 나 다 라 마 바 사 아 자 차 카 타 파 하 참고 주의 우"⟩,
    ⟨0x3280, 0x3297, "一 二 三 四 五 六 七 八 九 十 月 火 水 木 金 土 日 株 有 社 名 特 財 祝"⟩,
    ⟨0x3298, 0x32AF, "労 秘 男 女 適 優 印 注 項 休 写 正 上 中 下 左 右 医 宗 学 監 企 資 協"⟩,
    ⟨0x32B0, 0x32C5, "夜 36 37 38 39 40 41 42 43 44 45 46 47 48 49 50 1月 2月 3月 4月 5月 6月"⟩,
    ⟨0x32C6, 0x32D9, "7月 8月 9月 10月 11月 12月 hg erg ev ltd ア イ ウ エ オ カ キ ク ケ コ"⟩,
    ⟨0x32DA, 0x32E3, "サ シ ス セ ソ タ チ ツ テ ト"⟩, ⟨0x32EA, 0x32ED, "ヒ フ ヘ ホ"⟩,
    ⟨0x32F3, 0x32F4, "ヤ ユ"⟩,
    ⟨0x32FF, 0x3307, "令和 アパート アルファ アンペア アール イニング インチ ウォン エスクード"⟩,
    ⟨0x3308, 0x3310, "エーカー オンス オーム カイリ カラット カロリー ガロン ガンマ ギガ"⟩,
    ⟨0x3311, 0x3318, "ギニー キュリー ギルダー キロ キログラム キロメートル キロワット グラム"⟩,
    ⟨0x3319, 0x3320, "グラムトン クルゼイロ クローネ ケース コルナ コーポ サイクル サンチーム"⟩,
    ⟨0x3321, 0x332A, "シリング センチ セント ダース デシ ドル トン ナノ ノット ハイツ"⟩,
    ⟨0x332B, 0x3332, "パーセント パーツ バーレル ピアストル ピクル ピコ ビル ファラッド"⟩,
    ⟨0x3333, 0x333B, "フィート ブッシェル フラン ヘクタール ペソ ペニヒ ヘルツ ペンス ページ"⟩,
    ⟨0x333C, 0x3345, "ベータ ポイント ボルト ホン ポンド ホール ホーン マイクロ マイル マッハ"⟩,
    ⟨0x3346, 0x334E, "マルク マンション ミクロン ミリ ミリバール メガ メガトン メートル ヤード"⟩,
    ⟨0x334F, 0x3358, "ヤール ユアン リットル リラ ルピー ルーブル レム レントゲン ワット 0点"⟩,
    ⟨0x3359, 0x3368, "1点 2点 3点 4点 5点 6点 7点 8点 9点 10点 11点 12点 13点 14点 15点 16点"⟩,
    ⟨0x3369, 0x3379, "17点 18点 19点 20点 21点 22点 23点 24点 hpa da au bar ov pc dm dm2 dm3"⟩,
    ⟨0x337A, 0x338B, "iu 平成 昭和 大正 明治 株式会社 pa na μa ma ka kb mb gb cal kcal pf nf"⟩,
    ⟨0x338C, 0x33A1, "μf μg mg kg hz khz mhz ghz thz μl ml dl kl fm nm μm mm cm km mm2 cm2 m2"⟩,
    ⟨0x33A2, 0x33B3, "km2 mm3 cm3 m3 km3 m∕s m∕s2 pa kpa mpa gpa rad rad∕s rad∕s2 ps ns μs ms"⟩,
    ⟨0x33B4, 0x33C1, "pv nv μv mv kv mv pw nw μw mw kw mw kω mω"⟩,
    ⟨0x33C3, 0x33C6, "bq cc cd c∕kg"⟩,
    ⟨0x33C8, 0x33D7, "db gy ha hp in kk km kt lm ln log lx mb mil mol ph"⟩,
    ⟨0x33D9, 0x33EA, "ppm pr sr sv wb v∕m a∕m 1日 2日 3日 4日 5日 6日 7日 8日 9日 10日 11日"⟩,
    ⟨0x33EB, 0x33F8, "12日 13日 14日 15日 16日 17日 18日 19日 20日 21日 22日 23日 24日 25日"⟩,
    ⟨0x33F9, 0x33FF, "26日 27日 28日 29日 30日 31日 gal"⟩, ⟨0xA69C, 0xA69D, "ъ ь"⟩,
    ⟨0xA770, 0xA770, "ꝯ"⟩, ⟨0xA7F1, 0xA7F4, "s c f q"⟩, ⟨0xA7F8, 0xA7F9, "ħ œ"⟩,
    ⟨0xAB5C, 0xAB5F, "ꜧ ꬷ ɫ ꭒ"⟩, ⟨0xAB69, 0xAB69, "ʍ"⟩, ⟨0xFB00, 0xFB06, "ff fi fl ffi ffl st st"⟩,
    ⟨0xFB13, 0xFB17, "մն մե մի վն մխ"⟩, ⟨0xFB20, 0xFB29, "ע א ד ה כ ל ם ר ת +"⟩,
    ⟨0xFB4F, 0xFB72, "אל ٱ ٱ ٻ ٻ ٻ ٻ پ پ پ پ ڀ ڀ ڀ ڀ ٺ ٺ ٺ ٺ ٿ ٿ ٿ ٿ ٹ ٹ ٹ ٹ ڤ ڤ ڤ ڤ ڦ ڦ ڦ ڦ ڄ"⟩,
    ⟨0xFB73, 0xFB96, "ڄ ڄ ڄ ڃ ڃ ڃ ڃ چ چ چ چ ڇ ڇ ڇ ڇ ڍ ڍ ڌ ڌ ڎ ڎ ڈ ڈ ژ ژ ڑ ڑ ک ک ک ک گ گ گ گ ڳ"⟩,
    ⟨0xFB97, 0xFBB1, "ڳ ڳ ڳ ڱ ڱ ڱ ڱ ں ں ڻ ڻ ڻ ڻ ۀ ۀ ہ ہ ہ ہ ھ ھ ھ ھ ے ے ۓ ۓ"⟩,
    ⟨0xFBD3, 0xFBF1, "ڭ ڭ ڭ ڭ ۇ ۇ ۆ ۆ ۈ ۈ ۇٴ ۋ ۋ ۅ ۅ ۉ ۉ ې ې ې ې ى ى ئا ئا ئە ئە ئو ئو ئۇ ئۇ"⟩,
    ⟨0xFBF2, 0xFC0A, "ئۆ ئۆ ئۈ ئۈ ئې ئې ئې ئى ئى ئى ی ی ی ی ئج ئح ئم ئى ئي بج بح بخ بم بى بي"⟩,
    ⟨0xFC0B, 0xFC22, "تج تح تخ تم تى تي ثج ثم ثى ثي جح جم حج حم خج خح خم سج سح سخ سم صح صم ضج"⟩,
    ⟨0xFC23, 0xFC3A, "ضح ضخ ضم طح طم ظم عج عم غج غم فج فح فخ فم فى في قح قم قى قي كا كج كح كخ"⟩,
    ⟨0xFC3B, 0xFC52, "كل كم كى كي لج لح لخ لم لى لي مج مح مخ مم مى مي نج نح نخ نم نى ني هج هم"⟩,
    ⟨0xFC53, 0xFC5D, "هى هي يج يح يخ يم يى يي ذٰ رٰ ىٰ"⟩,
    ⟨0xFC64, 0xFC7B, "ئر ئز ئم ئن ئى ئي بر بز بم بن بى بي تر تز تم تن تى تي ثر ثز ثم ثن ثى ثي"⟩,
    ⟨0xFC7C, 0xFC93, "فى في قى قي كا كل كم كى كي لم لى لي ما مم نر نز نم نن نى ني ىٰ ير يز يم"⟩,
    ⟨0xFC94, 0xFCAB, "ين يى يي ئج ئح ئخ ئم ئه بج بح بخ بم به تج تح تخ تم ته ثم جح جم حج حم خج"⟩,
    ⟨0xFCAC, 0xFCC3, "خم سج سح سخ سم صح صخ صم ضج ضح ضخ ضم طح ظم عج عم غج غم فج فح فخ فم قح قم"⟩,
    ⟨0xFCC4, 0xFCDB, "كج كح كخ كل كم لج لح لخ لم له مج مح مخ مم نج نح نخ نم نه هج هم هٰ يج يح"⟩,
    ⟨0xFCDC, 0xFCF2, "يخ يم يه ئم ئه بم به تم ته ثم ثه سم سه شم شه كل كم لم نم نه يم يه ـَّ"⟩,
    ⟨0xFCF3, 0xFD09, "ـُّ ـِّ طى طي عى عي غى غي سى سي شى شي حى حي جى جي خى خي صى صي ضى ضي شج"⟩,
    ⟨0xFD0A, 0xFD21, "شح شخ شم شر سر صر ضر طى طي عى عي غى غي سى سي شى شي حى حي جى جي خى خي صى"⟩,
    ⟨0xFD22, 0xFD39, "صي ضى ضي شج شح شخ شم شر سر صر ضر شج شح شخ شم سه شه طم سج سح سخ شج شح شخ"⟩,
    ⟨0xFD3A, 0xFD3D, "طم ظم اً اً"⟩,
    ⟨0xFD50, 0xFD61, "تجم تحج تحج تحم تخم تمج تمح تمخ جمح جمح حمي حمى سحج سجح سجى سمح سمح سمج"⟩,
    ⟨0xFD62, 0xFD73, "سمم سمم صحح صحح صمم شحم شحم شجي شمخ شمخ شمم شمم ضحى ضخم ضخم طمح طمح طمم"⟩,
    ⟨0xFD74, 0xFD85, "طمي عجم عمم عمم عمى غمم غمي غمى فخم فخم قمح قمم لحم لحي لحى لجج لجج لخم"⟩,
    ⟨0xFD86, 0xFD8F, "لخم لمح لمح محج محم محي مجح مجم مخج مخم"⟩,
    ⟨0xFD92, 0xFDA3, "مجخ همج همم نحم نحى نجم نجم نجى نمي نمى يمم يمم بخي تجي تجى تخي تخى تمي"⟩,
    ⟨0xFDA4, 0xFDB5, "تمى جمي جحى جمى سخى صحي شحي ضحي لجي لمي يحي يجي يمي ممي قمي نحي قمح لحم"⟩,
    ⟨0xFDB6, 0xFDC7, "عمي كمي نجح مخي لجم كمم لجم نجح جحي حجي مجي فمي بحي كمم عجم صمم سخي نجي"⟩,
    ⟨0xFDF0, 0xFDF9, "صلے قلے الله اكبر محمد صلعم رسول عليه وسلم صلى"⟩, ⟨0xFDFC, 0xFDFC, "ریال"⟩,
    ⟨0xFE10, 0xFE11, ", 、"⟩, ⟨0xFE14, 0xFE15, "; !"⟩, ⟨0xFE17, 0xFE18, "〖 〗"⟩,
    ⟨0xFE31, 0xFE36, "— – _ _ ( )"⟩, ⟨0xFE39, 0xFE40, "〔 〕 【 】 《 》 〈 〉"⟩,
    ⟨0xFE4D, 0xFE51, "_ _ _ , 、"⟩, ⟨0xFE54, 0xFE54, ";"⟩, ⟨0xFE57, 0xFE5A, "! — ( )"⟩,
    ⟨0xFE5D, 0xFE5E, "〔 〕"⟩, ⟨0xFE60, 0xFE63, "& * + -"⟩, ⟨0xFE66, 0xFE66, "="⟩,
    ⟨0xFE69, 0xFE69, "$"⟩, ⟨0xFE71, 0xFE71, "ـً"⟩, ⟨0xFE77, 0xFE77, "ـَ"⟩, ⟨0xFE79, 0xFE79, "ـُ"⟩,
    ⟨0xFE7B, 0xFE7B, "ـِ"⟩, ⟨0xFE7D, 0xFE7D, "ـّ"⟩,
    ⟨0xFE7F, 0xFEA2, "ـْ ء آ آ أ أ ؤ ؤ إ إ ئ ئ ئ ئ ا ا ب ب ب ب ة ة ت ت ت ت ث ث ث ث ج ج ج ج ح ح"⟩,
    ⟨0xFEA3, 0xFEC6, "ح ح خ خ خ خ د د ذ ذ ر ر ز ز س س س س ش ش ش ش ص ص ص ص ض ض ض ض ط ط ط ط ظ ظ"⟩,
    ⟨0xFEC7, 0xFEEA, "ظ ظ ع ع ع ع غ غ غ غ ف ف ف ف ق ق ق ق ك ك ك ك ل ل ل ل م م م م ن ن ن ن ه ه"⟩,
    ⟨0xFEEB, 0xFEFC, "ه ه و و ى ى ي ي ي ي لآ لآ لأ لأ لإ لإ لا لا"⟩,
    ⟨0xFF5F, 0xFF77, "⦅ ⦆ . 「 」 、 ・ ヲ ァ ィ ゥ ェ ォ ャ ュ ョ ッ ー ア イ ウ エ オ カ キ"⟩,
    ⟨0xFF78, 0xFF84, "ク ケ コ サ シ ス セ ソ タ チ ツ テ ト"⟩, ⟨0xFF8B, 0xFF8E, "ヒ フ ヘ ホ"⟩,
    ⟨0xFF94, 0xFF95, "ヤ ユ"⟩, ⟨0xFF9C, 0xFF9D, "ワ ン"⟩,
    ⟨0xFFA1, 0xFFA9, "ᄀ ᄁ ᆪ ᄂ ᆬ ᆭ ᄃ ᄄ ᄅ"⟩, ⟨0xFFB0, 0xFFB4, "ᄚ ᄆ ᄇ ᄈ ᄡ"⟩,
    ⟨0xFFDA, 0xFFDC, "ᅳ ᅴ ᅵ"⟩, ⟨0xFFE0, 0xFFE2, "¢ £ ¬"⟩, ⟨0xFFE4, 0xFFE6, "¦ ¥ ₩"⟩,
    ⟨0xFFE8, 0xFFE8, "│"⟩, ⟨0xFFED, 0xFFEE, "■ ○"⟩, ⟨0x10781, 0x10785, "ː ˑ æ ʙ ɓ"⟩,
    ⟨0x10787, 0x107A9, "ʣ ꭦ ʥ ʤ ɖ ɗ ᶑ ɘ ɞ ʩ ɤ ɢ ɠ ʛ ħ ʜ ɧ ʄ ʪ ʫ ɬ 𝼄 ꞎ ɮ 𝼅 ʎ 𝼆 ø ɶ ɷ q ɺ 𝼈 ɽ ɾ"⟩,
    ⟨0x107AA, 0x107B0, "ʀ ʨ ʦ ꭧ ʧ ʈ ⱱ"⟩, ⟨0x107B2, 0x107BA, "ʏ ʡ ʢ ʘ ǀ ǁ ǂ 𝼊 𝼞"⟩,
    ⟨0x1D49C, 0x1D49C, "a"⟩, ⟨0x1D49E, 0x1D49F, "c d"⟩, ⟨0x1D4A2, 0x1D4A2, "g"⟩,
    ⟨0x1D4A5, 0x1D4A6, "j k"⟩, ⟨0x1D4BB, 0x1D4BB, "f"⟩, ⟨0x1D504, 0x1D505, "a b"⟩,
    ⟨0x1D538, 0x1D539, "a b"⟩, ⟨0x1D546, 0x1D546, "o"⟩, ⟨0x1D6A4, 0x1D6A5, "ı ȷ"⟩,
    ⟨0x1D6B9, 0x1D6B9, "θ"⟩, ⟨0x1D6C1, 0x1D6C1, "∇"⟩, ⟨0x1D6D3, 0x1D6D3, "σ"⟩,
    ⟨0x1D6DB, 0x1D6E1, "∂ ε θ κ φ ρ π"⟩, ⟨0x1D6F3, 0x1D6F3, "θ"⟩, ⟨0x1D6FB, 0x1D6FB, "∇"⟩,
    ⟨0x1D70D, 0x1D70D, "σ"⟩, ⟨0x1D715, 0x1D71B, "∂ ε θ κ φ ρ π"⟩, ⟨0x1D72D, 0x1D72D, "θ"⟩,
    ⟨0x1D735, 0x1D735, "∇"⟩, ⟨0x1D747, 0x1D747, "σ"⟩, ⟨0x1D74F, 0x1D755, "∂ ε θ κ φ ρ π"⟩,
    ⟨0x1D767, 0x1D767, "θ"⟩, ⟨0x1D76F, 0x1D76F, "∇"⟩, ⟨0x1D781, 0x1D781, "σ"⟩,
    ⟨0x1D789, 0x1D78F, "∂ ε θ κ φ ρ π"⟩, ⟨0x1D7A1, 0x1D7A1, "θ"⟩, ⟨0x1D7A9, 0x1D7A9, "∇"⟩,
    ⟨0x1D7BB, 0x1D7BB, "σ"⟩, ⟨0x1D7C3, 0x1D7CB, "∂ ε θ κ φ ρ π ϝ ϝ"⟩, ⟨0x1E039, 0x1E03B, "к л м"⟩,
    ⟨0x1E047, 0x1E050, "ы э ю ꚉ ә і ј ө ү ӏ"⟩, ⟨0x1E05A, 0x1E05E, "к л о п с"⟩,
    ⟨0x1E065, 0x1E06D, "ъ ы ґ і ѕ џ ҫ ꙑ ұ"⟩, ⟨0x1EE00, 0x1EE03, "ا ب ج د"⟩,
    ⟨0x1EE05, 0x1EE09, "و ز ح ط ي"⟩, ⟨0x1EE0E, 0x1EE1F, "س ع ف ص ق ر ش ت ث خ ذ ض ظ غ ٮ ں ڡ ٯ"⟩,
    ⟨0x1EE21, 0x1EE22, "ب ج"⟩, ⟨0x1EE24, 0x1EE24, "ه"⟩, ⟨0x1EE27, 0x1EE27, "ح"⟩,
    ⟨0x1EE29, 0x1EE29, "ي"⟩, ⟨0x1EE2E, 0x1EE32, "س ع ف ص ق"⟩, ⟨0x1EE34, 0x1EE37, "ش ت ث خ"⟩,
    ⟨0x1EE39, 0x1EE39, "ض"⟩, ⟨0x1EE3B, 0x1EE3B, "غ"⟩, ⟨0x1EE42, 0x1EE42, "ج"⟩,
    ⟨0x1EE47, 0x1EE47, "ح"⟩, ⟨0x1EE49, 0x1EE49, "ي"⟩, ⟨0x1EE4B, 0x1EE4B, "ل"⟩,
    ⟨0x1EE4D, 0x1EE4F, "ن س ع"⟩, ⟨0x1EE51, 0x1EE52, "ص ق"⟩, ⟨0x1EE54, 0x1EE54, "ش"⟩,
    ⟨0x1EE57, 0x1EE57, "خ"⟩, ⟨0x1EE59, 0x1EE59, "ض"⟩, ⟨0x1EE5B, 0x1EE5B, "غ"⟩,
    ⟨0x1EE5D, 0x1EE5D, "ں"⟩, ⟨0x1EE5F, 0x1EE5F, "ٯ"⟩, ⟨0x1EE61, 0x1EE62, "ب ج"⟩,
    ⟨0x1EE64, 0x1EE64, "ه"⟩, ⟨0x1EE67, 0x1EE6A, "ح ط ي ك"⟩, ⟨0x1EE6C, 0x1EE72, "م ن س ع ف ص ق"⟩,
    ⟨0x1EE74, 0x1EE77, "ش ت ث خ"⟩, ⟨0x1EE79, 0x1EE7C, "ض ظ غ ٮ"⟩, ⟨0x1EE7E, 0x1EE7E, "ڡ"⟩,
    ⟨0x1EE80, 0x1EE89, "ا ب ج د ه و ز ح ط ي"⟩,
    ⟨0x1EE8B, 0x1EE9B, "ل م ن س ع ف ص ق ر ش ت ث خ ذ ض ظ غ"⟩, ⟨0x1EEA1, 0x1EEA3, "ب ج د"⟩,
    ⟨0x1EEA5, 0x1EEA9, "و ز ح ط ي"⟩, ⟨0x1EEAB, 0x1EEBB, "ل م ن س ع ف ص ق ر ش ت ث خ ذ ض ظ غ"⟩,
    ⟨0x1F101, 0x1F10A, "0, 1, 2, 3, 4, 5, 6, 7, 8, 9,"⟩,
    ⟨0x1F110, 0x1F120, "(a) (b) (c) (d) (e) (f) (g) (h) (i) (j) (k) (l) (m) (n) (o) (p) (q)"⟩,
    ⟨0x1F121, 0x1F12E, "(r) (s) (t) (u) (v) (w) (x) (y) (z) 〔s〕 c r cd wz"⟩,
    ⟨0x1F14A, 0x1F14F, "hv mv sd ss ppv wc"⟩, ⟨0x1F16A, 0x1F16C, "mc md mr"⟩,
    ⟨0x1F190, 0x1F190, "dj"⟩, ⟨0x1F200, 0x1F202, "ほか ココ サ"⟩,
    ⟨0x1F210, 0x1F226, "手 字 双 デ 二 多 解 天 交 映 無 料 前 後 再 新 初 終 生 販 声 吹 演"⟩,
    ⟨0x1F227, 0x1F23B, "投 捕 一 三 遊 左 中 右 指 走 打 禁 空 合 満 有 月 申 割 営 配"⟩,
    ⟨0x1F240, 0x1F248, "〔本〕 〔三〕 〔二〕 〔安〕 〔点〕 〔打〕 〔盗〕 〔勝〕 〔敗〕"⟩,
    ⟨0x1F250, 0x1F251, "得 可"⟩]

end DocBridge.DomainTable
