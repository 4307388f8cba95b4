import MsxWorkbench.Charset.Table
/-
# The tables that come with the program

The character tables as they are delivered. Some entries of the Arabic table hold remarks of their
source instead of characters, and the symbols and letters of the Russian table are shown bytewise.
-/
namespace MsxWorkbench.Charset

/-- Graphic characters of the codes below 0x20. -/
def graphicTexts : List String := [
  "\x00", "☺", "☻", "♥", "♦", "♣", "♠", "•", "◘", "○", "◙", "♂", "♀", "♪", "♫", "☼", "►", "┴", "┬",
  "┤", "├", "┼", "│", "─", "┌", "┐", "└", "┘", "╳", "╱", "╲", "🮯"]

/-- Graphic characters of the Japanese table. -/
def japaneseGraphicTexts : List String := [
  "\x00", "月", "火", "水", "木", "金", "土", "日", "年", "円", "時", "分", "秒", "百", "千", "万", "π", "┴", "┬",
  "┤", "├", "┼", "│", "─", "┌", "┐", "└", "┘", "╳", "大", "中", "小"]

/-- Graphic characters of the Arabic table. -/
def arabicGraphicTexts : List String := [
  "\ufffd", "\ufffd", "\ufffd", "\ufffd", "\ufffd", "\ufffd", "\ufffd", "\ufffd", "\ufffd",
  "\ufffd", "\ufffd", "\ufffd", "\ufffd", "\ufffd", "\ufffd", "\ufffd", "►", "┴", "┬", "┤", "├",
  "┼", "│", "─", "┌", "┐", "└", "┘", "╳", "\ufffd", "\ufffd", "\ufffd"]

/-- The high half of the international table. -/
def internationalTexts : List String := [
  "Ç", "ü", "é", "â", "ä", "à", "å", "ç", "ê", "ë", "è", "ï", "î", "ì", "Ä", "Å", "É", "æ", "Æ",
  "ô", "ö", "ò", "û", "ù", "ÿ", "Ö", "Ü", "¢", "£", "¥", "₧", "ƒ", "á", "í", "ó", "ú", "ñ", "Ñ",
  "ª", "º", "¿", "⌐", "¬", "½", "¼", "¡", "«", "»", "Ã", "ã", "Ĩ", "ĩ", "Õ", "õ", "Ũ", "ũ", "Ĳ",
  "ĳ", "¾", "∽", "◇", "‰", "¶", "§", "▂", "▚", "▆", "🮂", "▬", "🮅", "▎", "▞", "▊", "🮇", "🮊", "🮙",
  "🮘", "🭭", "🭯", "🭬", "🭮", "🮚", "🮛", "▘", "▗", "▝", "▖", "🮖", "Δ", "‡", "ω", "█", "▄", "▌", "▐",
  "▀", "α", "ß", "Γ", "π", "Σ", "σ", "µ", "τ", "Φ", "Θ", "Ω", "δ", "∞", "∅", "∈", "∩", "≡", "±",
  "≥", "≤", "⌠", "⌡", "÷", "≈", "°", "∙", "·", "√", "ⁿ", "²", "■", "\ufffd"]

/-- The high half of the Japanese table. -/
def japaneseTexts : List String := [
  "♠", "♥", "♣", "♦", "○", "●", "を", "ぁ", "ぃ", "ぅ", "ぇ", "ぉ", "ゃ", "ゅ", "ょ", "っ", "\ufffd", "あ",
  "い", "う", "え", "お", "か", "き", "く", "け", "こ", "さ", "し", "す", "せ", "そ", "　", "。", "「", "」", "、",
  "・", "ヲ", "ァ", "ィ", "ゥ", "ェ", "ォ", "ャ", "ュ", "ョ", "ッ", "ー", "ア", "イ", "ウ", "エ", "オ", "カ", "キ",
  "ク", "ケ", "コ", "サ", "シ", "ス", "セ", "ソ", "タ", "チ", "ツ", "テ", "ト", "ナ", "ニ", "ヌ", "ネ", "ノ", "ハ",
  "ヒ", "フ", "ヘ", "ホ", "マ", "ミ", "ム", "メ", "モ", "ヤ", "ユ", "ヨ", "ラ", "リ", "ル", "レ", "ロ", "ワ", "ン",
  "゛", "゜", "た", "ち", "つ", "て", "と", "な", "に", "ぬ", "ね", "の", "は", "ひ", "ふ", "へ", "ほ", "ま", "み",
  "む", "め", "も", "や", "ゆ", "よ", "ら", "り", "る", "れ", "ろ", "わ", "ん", "\ufffd", "\ufffd"]

/-- The high half of the Brazilian table. -/
def brazilianTexts : List String := [
  "Ç", "ü", "é", "â", "Á", "à", "¨", "ç", "ê", "Í", "Ó", "Ú", "Â", "Ê", "Ô", "À", "É", "æ", "Æ",
  "ô", "ö", "ò", "û", "ù", "ÿ", "Ö", "Ü", "¢", "£", "¥", "₢", "ƒ", "á", "í", "ó", "ú", "ñ", "Ñ",
  "ª", "º", "¿", "⌐", "¬", "½", "¼", "¡", "«", "»", "Ã", "ã", "Ĩ", "ĩ", "Õ", "õ", "Ũ", "ũ", "Ĳ",
  "ĳ", "¾", "∽", "◇", "‰", "¶", "§", "▂", "▚", "▆", "🮂", "▬", "🮅", "▎", "▞", "▊", "🮇", "🮊", "🮙",
  "🮘", "🭭", "🭯", "🭬", "🭮", "🮚", "🮛", "▘", "▗", "▝", "▖", "🮖", "Δ", "‡", "ω", "█", "▄", "▌", "▐",
  "▀", "α", "ß", "Γ", "π", "Σ", "σ", "µ", "τ", "Φ", "Θ", "Ω", "δ", "∞", "∅", "∈", "∩", "≡", "±",
  "≥", "≤", "⌠", "⌡", "÷", "≈", "°", "∙", "·", "√", "ⁿ", "²", "■", "\ufffd"]

/-- The high half of the Arabic table. -/
def arabicTexts : List String := [
  " ", "!", "\"", "#", "$", "٪", "&", "\",        // 0x87\n    ", ",        // 0x88\n    ",
  ",        // 0x89\n    ", ",        // 0x8A\n    ", ",        // 0x8B\n    ",
  ",   // 0x8C: ، Arabic Comma\n    ", ",        // 0x8D\n    ", ",        // 0x8E\n    ",
  ",        // 0x8F\n    // 0x90-0x9F: Arabic-Indic digits + punctuation\n    ",
  ",   // 0x90: ٠ Arabic-Indic Digit Zero\n    ", ",   // 0x91: ١\n    ", ",   // 0x92: ٢\n    ",
  ",   // 0x93: ٣\n    ", ",   // 0x94: ٤\n    ", ",   // 0x95: ٥\n    ", ",   // 0x96: ٦\n    ",
  ",   // 0x97: ٧\n    ", ",   // 0x98: ٨\n    ", ",   // 0x99: ٩\n    ", ",        // 0x9A\n    ",
  ",   // 0x9B: ؛ Arabic Semicolon\n    ", ",        // 0x9C\n    ", ",        // 0x9D\n    ",
  ",        // 0x9E\n    ",
  ",   // 0x9F: ؟ Arabic Question Mark\n    // 0xA0-0xAF: Arabic letters (abstract Unicode forms)\n    ",
  ",        // 0xA0: @ (RTL)\n    ", ",   // 0xA1: ئ Yeh With Hamza Above (initial/medial)\n    ",
  ",   // 0xA2: ئ Yeh With Hamza Above (isolated/final)\n    ",
  ",   // 0xA3: ب Beh (initial/medial)\n    ", ",   // 0xA4: ب Beh (isolated/final)\n    ",
  ",   // 0xA5: ت Teh (initial/medial)\n    ", ",   // 0xA6: ت Teh (isolated/final)\n    ",
  ",   // 0xA7: ث Theh (initial/medial)\n    ", ",   // 0xA8: ث Theh (isolated/final)\n    ",
  ",   // 0xA9: ج Jeem (initial/medial)\n    ", ",   // 0xAA: ج Jeem (isolated/final)\n    ",
  ",   // 0xAB: ح Hah (initial/medial)\n    ", ",   // 0xAC: ح Hah (isolated/final)\n    ",
  ",   // 0xAD: خ Khah (initial/medial)\n    ", ",   // 0xAE: خ Khah (isolated/final)\n    ",
  ",   // 0xAF: س Seen (initial/medial)\n    // 0xB0-0xBF: More Arabic letters + RTL brackets\n    ",
  ",   // 0xB0: س Seen (isolated/final)\n    ", ",   // 0xB1: ش Sheen (initial/medial)\n    ",
  ",   // 0xB2: ش Sheen (isolated/final)\n    ", ",   // 0xB3: ص Sad (initial/medial)\n    ",
  ",   // 0xB4: ص Sad (isolated/final)\n    ", ",   // 0xB5: ض Dad (initial/medial)\n    ",
  ",   // 0xB6: ض Dad (isolated/final)\n    ", ",   // 0xB7: ط Tah (all forms)\n    ",
  ",   // 0xB8: ظ Zah (all forms)\n    ", ",   // 0xB9: ع Ain (initial)\n    ",
  ",   // 0xBA: ع Ain (isolated/final)\n    ", ",        // 0xBB: [ (RTL)\n    ",
  ",       // 0xBC: \\ (RTL)\n    ", ",        // 0xBD: ] (RTL)\n    ",
  ",        // 0xBE: ^ (RTL)\n    ",
  ",        // 0xBF: _ (RTL)\n    // 0xC0-0xCF: More Arabic letters\n    ",
  ",   // 0xC0: ع Ain (medial)\n    ", ",   // 0xC1: ع Ain (final)\n    ",
  ",   // 0xC2: غ Ghain (initial)\n    ", ",   // 0xC3: غ Ghain (isolated)\n    ",
  ",   // 0xC4: غ Ghain (medial)\n    ", ",   // 0xC5: غ Ghain (final)\n    ",
  ",   // 0xC6: ف Feh (initial/medial)\n    ", ",   // 0xC7: ف Feh (isolated/final)\n    ",
  ",   // 0xC8: ق Qaf (initial/medial)\n    ", ",   // 0xC9: ق Qaf (isolated/final)\n    ",
  ",   // 0xCA: ك Kaf (initial/medial)\n    ", ",   // 0xCB: ك Kaf (isolated/final)\n    ",
  ",   // 0xCC: ل Lam (initial/medial)\n    ", ",   // 0xCD: ل Lam (isolated/final)\n    ",
  ",   // 0xCE: م Meem (initial/medial)\n    ",
  ",   // 0xCF: م Meem (isolated/final)\n    // 0xD0-0xDF: More Arabic letters + RTL brackets\n    ",
  ",   // 0xD0: ن Noon (initial/medial)\n    ", ",   // 0xD1: ن Noon (isolated/final)\n    ",
  ",   // 0xD2: ه Heh (initial/medial)\n    ", ",   // 0xD3: ه Heh (isolated/final)\n    ",
  ",   // 0xD4: ي Yeh (initial/medial)\n    ", ",   // 0xD5: ي Yeh (isolated)\n    ",
  ",   // 0xD6: ي Yeh (final)\n    ", ",   // 0xD7: آ Alef With Madda Above (isolated)\n    ",
  ",   // 0xD8: آ Alef With Madda Above (final)\n    ",
  ",   // 0xD9: أ Alef With Hamza Above (isolated)\n    ",
  ",   // 0xDA: أ Alef With Hamza Above (final)\n    ", ",        // 0xDB: \x7b (RTL)\n    ",
  ",        // 0xDC: | (RTL)\n    ", ",        // 0xDD: \x7d (RTL)\n    ",
  ",        // 0xDE: ~ (RTL)\n    ",
  ",   // 0xDF: ؤ Waw With Hamza Above\n    // 0xE0-0xEF: More Arabic letters + ligatures\n    ",
  ",   // 0xE0: إ Alef With Hamza Below (isolated)\n    ",
  ",   // 0xE1: إ Alef With Hamza Below (final)\n    ", ",   // 0xE2: ا Alef (isolated)\n    ",
  ",   // 0xE3: ا Alef (final)\n    ", ",   // 0xE4: ة Teh Marbuta\n    ",
  ",   // 0xE5: د Dal\n    ", ",   // 0xE6: ذ Thal\n    ", ",   // 0xE7: ر Reh\n    ",
  ",   // 0xE8: ز Zain\n    ", ",   // 0xE9: و Waw\n    ",
  ",   // 0xEA: ى Alef Maksura (isolated)\n    ", ",   // 0xEB: ى Alef Maksura (final)\n    ",
  ",   // 0xEC: ﻻ Lam-Alef ligature (isolated)\n    ",
  ",   // 0xED: ﻷ Lam-Alef With Hamza Above (isolated)\n    ",
  ",   // 0xEE: ﻵ Lam-Alef With Madda Above (isolated)\n    ",
  ",   // 0xEF: ﻹ Lam-Alef With Hamza Below (isolated)\n    // 0xF0-0xFF: Standalone characters + diacritical marks\n    ",
  ",   // 0xF0: ء Hamza\n    ", ",   // 0xF1: ـ Tatweel (Kashida)\n    ",
  ",   // 0xF2: \u064b Fathatan\n    ", ",   // 0xF3: \u064c Dammatan\n    ",
  ",   // 0xF4: \u064d Kasratan\n    ", ",   // 0xF5: \u064e Fatha (isolated)\n    ",
  ",   // 0xF6: \u064e Fatha (medial)\n    ", ",   // 0xF7: \u064f Damma (isolated)\n    ",
  ",   // 0xF8: \u064f Damma (medial)\n    ", ",   // 0xF9: \u0650 Kasra (isolated)\n    ",
  ",   // 0xFA: \u0650 Kasra (medial)\n    ", ",   // 0xFB: \u0651 Shadda (isolated)\n    ",
  ",   // 0xFC: \u0651 Shadda (medial)\n    ", ",   // 0xFD: \u0652 Sukun (isolated)\n    ",
  ",   // 0xFE: \u0652 Sukun (medial)\n    ", ""]

/-- Block elements of the Russian table. -/
def blockTexts : List String := [
  "▂", "▚", "▆", "🮂", "▬", "🮅", "▎", "▞", "▊", "🮇", "🮊", "🮙", "🮘", "🭭", "🭯", "🭬", "🭮", "🮚", "🮛",
  "▘", "▗", "▝", "▖", "🮖"]

/-- Mathematical and Greek characters of the Russian table. -/
def mathTexts : List String := [
  "α", "ß", "Γ", "π", "Σ", "σ", "µ", "τ", "Φ", "Θ", "Ω", "δ", "∞", "∅", "∈", "∩", "≡", "±", "≥",
  "≤", "⌠", "⌡", "÷", "≈", "°", "∙", "·", "√", "ⁿ", "²", "■"]

/-- A table from its low and high texts. -/
def tableOf (low : List String) (ascii : List (List Char)) (house : List Char)
    (high : List String) : Table :=
  low.map String.toList ++ ascii ++ [house] ++ high.map String.toList

/-- The high half of the Russian table. -/
def russianTexts : List String :=
  blockTexts ++ (russianSymbols.map bytewise).map String.ofList ++ mathTexts ++
    [String.ofList (single 0xA4)] ++ (russianSmall.map bytewise).map String.ofList ++
    (russianCapital.map bytewise).map String.ofList ++ [String.ofList (single 0xFFFD)]

/-- The delivered tables, in the order of their file. -/
def delivered : Tables := [
  ("International", tableOf graphicTexts plainAscii houseSign internationalTexts),
  ("Japanese", tableOf japaneseGraphicTexts (asciiPart 0x5C (single 0xA5)) [] japaneseTexts),
  ("Brazilian", tableOf graphicTexts plainAscii houseSign brazilianTexts),
  ("Russian", tableOf graphicTexts plainAscii houseSign russianTexts),
  ("Arabic", tableOf arabicGraphicTexts plainAscii [] arabicTexts)]

end MsxWorkbench.Charset
