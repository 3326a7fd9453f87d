/-!
# Latin spellings

How characters outside ASCII are spelt with ASCII characters: letters of the Latin, Greek and
Cyrillic scripts, punctuation, and what else has been met. It is no complete transliteration: a
character that is missing has no spelling.
-/
namespace OpenApiClient.Text

/-- Code points with their spellings, in increasing order. -/
def latinTable : List (Nat × String) := [
    (0x0085, ""), (0x00A0, " "), (0x00A1, "!"), (0x00A2, "c"), (0x00A3, "GBP"), (0x00A5, "Y"),
    (0x00A9, "(C)"), (0x00AA, "a"), (0x00AB, "<<"), (0x00AE, "(R)"), (0x00B0, "deg"),
    (0x00B1, "+-"), (0x00B2, "2"), (0x00B3, "3"), (0x00B4, "\x27"), (0x00B5, "u"), (0x00B7, "-"),
    (0x00B9, "1"), (0x00BA, "o"), (0x00BB, ">>"), (0x00BC, "1/4"), (0x00BD, "1/2"), (0x00BE, "3/4"),
    (0x00BF, "?"), (0x00C0, "A"), (0x00C1, "A"), (0x00C2, "A"), (0x00C3, "A"), (0x00C4, "A"),
    (0x00C5, "A"), (0x00C6, "Ae"), (0x00C7, "C"), (0x00C8, "E"), (0x00C9, "E"), (0x00CA, "E"),
    (0x00CB, "E"), (0x00CC, "I"), (0x00CD, "I"), (0x00CE, "I"), (0x00CF, "I"), (0x00D0, "D"),
    (0x00D1, "N"), (0x00D2, "O"), (0x00D3, "O"), (0x00D4, "O"), (0x00D5, "O"), (0x00D6, "O"),
    (0x00D7, "*"), (0x00D8, "O"), (0x00D9, "U"), (0x00DA, "U"), (0x00DB, "U"), (0x00DC, "U"),
    (0x00DD, "Y"), (0x00DE, "Th"), (0x00DF, "ss"), (0x00E0, "a"), (0x00E1, "a"), (0x00E2, "a"),
    (0x00E3, "a"), (0x00E4, "a"), (0x00E5, "a"), (0x00E6, "ae"), (0x00E7, "c"), (0x00E8, "e"),
    (0x00E9, "e"), (0x00EA, "e"), (0x00EB, "e"), (0x00EC, "i"), (0x00ED, "i"), (0x00EE, "i"),
    (0x00EF, "i"), (0x00F0, "d"), (0x00F1, "n"), (0x00F2, "o"), (0x00F3, "o"), (0x00F4, "o"),
    (0x00F5, "o"), (0x00F6, "o"), (0x00F7, "/"), (0x00F8, "o"), (0x00F9, "u"), (0x00FA, "u"),
    (0x00FB, "u"), (0x00FC, "u"), (0x00FD, "y"), (0x00FE, "th"), (0x00FF, "y"), (0x0100, "A"),
    (0x0101, "a"), (0x0102, "A"), (0x0103, "a"), (0x0104, "A"), (0x0105, "a"), (0x0106, "C"),
    (0x0107, "c"), (0x0108, "C"), (0x0109, "c"), (0x010A, "C"), (0x010B, "c"), (0x010C, "C"),
    (0x010D, "c"), (0x010E, "D"), (0x010F, "d"), (0x0110, "D"), (0x0111, "d"), (0x0112, "E"),
    (0x0113, "e"), (0x0114, "E"), (0x0115, "e"), (0x0116, "E"), (0x0117, "e"), (0x0118, "E"),
    (0x0119, "e"), (0x011A, "E"), (0x011B, "e"), (0x011C, "G"), (0x011D, "g"), (0x011E, "G"),
    (0x011F, "g"), (0x0120, "G"), (0x0121, "g"), (0x0122, "G"), (0x0123, "g"), (0x0124, "H"),
    (0x0125, "h"), (0x0126, "H"), (0x0127, "h"), (0x0128, "I"), (0x0129, "i"), (0x012A, "I"),
    (0x012B, "i"), (0x012C, "I"), (0x012D, "i"), (0x012E, "I"), (0x012F, "i"), (0x0130, "I"),
    (0x0131, "i"), (0x0132, "IJ"), (0x0133, "ij"), (0x0134, "J"), (0x0135, "j"), (0x0136, "K"),
    (0x0137, "k"), (0x0138, "k"), (0x0139, "L"), (0x013A, "l"), (0x013B, "L"), (0x013C, "l"),
    (0x013D, "L"), (0x013E, "l"), (0x013F, "L"), (0x0140, "l"), (0x0141, "L"), (0x0142, "l"),
    (0x0143, "N"), (0x0144, "n"), (0x0145, "N"), (0x0146, "n"), (0x0147, "N"), (0x0148, "n"),
    (0x0149, "\x27n"), (0x014A, "Ng"), (0x014B, "ng"), (0x014C, "O"), (0x014D, "o"), (0x014E, "O"),
    (0x014F, "o"), (0x0150, "O"), (0x0151, "o"), (0x0152, "Oe"), (0x0153, "oe"), (0x0154, "R"),
    (0x0155, "r"), (0x0156, "R"), (0x0157, "r"), (0x0158, "R"), (0x0159, "r"), (0x015A, "S"),
    (0x015B, "s"), (0x015C, "S"), (0x015D, "s"), (0x015E, "S"), (0x015F, "s"), (0x0160, "S"),
    (0x0161, "s"), (0x0162, "T"), (0x0163, "t"), (0x0164, "T"), (0x0165, "t"), (0x0166, "T"),
    (0x0167, "t"), (0x0168, "U"), (0x0169, "u"), (0x016A, "U"), (0x016B, "u"), (0x016C, "U"),
    (0x016D, "u"), (0x016E, "U"), (0x016F, "u"), (0x0170, "U"), (0x0171, "u"), (0x0172, "U"),
    (0x0173, "u"), (0x0174, "W"), (0x0175, "w"), (0x0176, "Y"), (0x0177, "y"), (0x0178, "Y"),
    (0x0179, "Z"), (0x017A, "z"), (0x017B, "Z"), (0x017C, "z"), (0x017D, "Z"), (0x017E, "z"),
    (0x017F, "s"), (0x01C5, "Dz"), (0x01C6, "dz"), (0x01CD, "A"), (0x01CE, "a"), (0x01CF, "I"),
    (0x01D0, "i"), (0x01D1, "O"), (0x01D2, "o"), (0x01D3, "U"), (0x01D4, "u"), (0x01D5, "U"),
    (0x01D6, "u"), (0x01D7, "U"), (0x01D8, "u"), (0x01D9, "U"), (0x01DA, "u"), (0x01DB, "U"),
    (0x01DC, "u"), (0x0200, "A"), (0x0201, "a"), (0x0202, "A"), (0x0203, "a"), (0x0204, "E"),
    (0x0205, "e"), (0x0206, "E"), (0x0207, "e"), (0x0208, "I"), (0x0209, "i"), (0x020A, "I"),
    (0x020B, "i"), (0x020C, "O"), (0x020D, "o"), (0x020E, "O"), (0x020F, "o"), (0x0210, "R"),
    (0x0211, "r"), (0x0212, "R"), (0x0213, "r"), (0x0214, "U"), (0x0215, "u"), (0x0216, "U"),
    (0x0217, "u"), (0x0218, "S"), (0x0219, "s"), (0x021A, "T"), (0x021B, "t"), (0x02BC, "\x27"),
    (0x0300, ""), (0x0301, ""), (0x0302, ""), (0x0303, ""), (0x0304, ""), (0x0305, ""),
    (0x0306, ""), (0x0307, ""), (0x0308, ""), (0x0309, ""), (0x030A, ""), (0x030B, ""),
    (0x030C, ""), (0x030D, ""), (0x030E, ""), (0x030F, ""), (0x0310, ""), (0x0311, ""),
    (0x0312, ""), (0x0313, ""), (0x0314, ""), (0x0315, ""), (0x0316, ""), (0x0317, ""),
    (0x0318, ""), (0x0319, ""), (0x031A, ""), (0x031B, ""), (0x031C, ""), (0x031D, ""),
    (0x031E, ""), (0x031F, ""), (0x0320, ""), (0x0321, ""), (0x0322, ""), (0x0323, ""),
    (0x0324, ""), (0x0325, ""), (0x0326, ""), (0x0327, ""), (0x0328, ""), (0x0329, ""),
    (0x032A, ""), (0x032B, ""), (0x032C, ""), (0x032D, ""), (0x032E, ""), (0x032F, ""),
    (0x0330, ""), (0x0331, ""), (0x0332, ""), (0x0333, ""), (0x0334, ""), (0x0335, ""),
    (0x0336, ""), (0x0337, ""), (0x0338, ""), (0x0339, ""), (0x033A, ""), (0x033B, ""),
    (0x033C, ""), (0x033D, ""), (0x033E, ""), (0x033F, ""), (0x0340, ""), (0x0341, ""),
    (0x0342, ""), (0x0343, ""), (0x0344, ""), (0x0345, ""), (0x0346, ""), (0x0347, ""),
    (0x0348, ""), (0x0349, ""), (0x034A, ""), (0x034B, ""), (0x034C, ""), (0x034D, ""),
    (0x034E, ""), (0x034F, ""), (0x0350, ""), (0x0351, ""), (0x0352, ""), (0x0353, ""),
    (0x0354, ""), (0x0355, ""), (0x0356, ""), (0x0357, ""), (0x0358, ""), (0x0359, ""),
    (0x035A, ""), (0x035B, ""), (0x035C, ""), (0x035D, ""), (0x035E, ""), (0x035F, ""),
    (0x0360, ""), (0x0361, ""), (0x0362, ""), (0x0363, ""), (0x0364, ""), (0x0365, ""),
    (0x0366, ""), (0x0367, ""), (0x0368, ""), (0x0369, ""), (0x036A, ""), (0x036B, ""),
    (0x036C, ""), (0x036D, ""), (0x036E, ""), (0x036F, ""), (0x0386, "A"), (0x0388, "E"),
    (0x0389, "I"), (0x038A, "I"), (0x038C, "O"), (0x038E, "Y"), (0x038F, "O"), (0x0390, "i"),
    (0x0391, "A"), (0x0392, "V"), (0x0393, "G"), (0x0394, "D"), (0x0395, "E"), (0x0396, "Z"),
    (0x0397, "I"), (0x0398, "Th"), (0x0399, "I"), (0x039A, "K"), (0x039B, "L"), (0x039C, "M"),
    (0x039D, "N"), (0x039E, "X"), (0x039F, "O"), (0x03A0, "P"), (0x03A1, "R"), (0x03A3, "S"),
    (0x03A4, "T"), (0x03A5, "Y"), (0x03A6, "F"), (0x03A7, "Ch"), (0x03A8, "Ps"), (0x03A9, "O"),
    (0x03AA, "I"), (0x03AB, "Y"), (0x03AC, "a"), (0x03AD, "e"), (0x03AE, "i"), (0x03AF, "i"),
    (0x03B0, "y"), (0x03B1, "a"), (0x03B2, "v"), (0x03B3, "g"), (0x03B4, "d"), (0x03B5, "e"),
    (0x03B6, "z"), (0x03B7, "i"), (0x03B8, "th"), (0x03B9, "i"), (0x03BA, "k"), (0x03BB, "l"),
    (0x03BC, "m"), (0x03BD, "n"), (0x03BE, "x"), (0x03BF, "o"), (0x03C0, "p"), (0x03C1, "r"),
    (0x03C2, "s"), (0x03C3, "s"), (0x03C4, "t"), (0x03C5, "y"), (0x03C6, "f"), (0x03C7, "ch"),
    (0x03C8, "ps"), (0x03C9, "o"), (0x03CA, "i"), (0x03CB, "y"), (0x03CC, "o"), (0x03CD, "y"),
    (0x03CE, "o"), (0x0410, "A"), (0x0411, "B"), (0x0412, "V"), (0x0413, "G"), (0x0414, "D"),
    (0x0415, "E"), (0x0416, "Zh"), (0x0417, "Z"), (0x0418, "I"), (0x0419, "Y"), (0x041A, "K"),
    (0x041B, "L"), (0x041C, "M"), (0x041D, "N"), (0x041E, "O"), (0x041F, "P"), (0x0420, "R"),
    (0x0421, "S"), (0x0422, "T"), (0x0423, "U"), (0x0424, "F"), (0x0425, "Kh"), (0x0426, "Ts"),
    (0x0427, "Ch"), (0x0428, "Sh"), (0x0429, "Shch"), (0x042B, "Y"), (0x042D, "E"), (0x042E, "Yu"),
    (0x042F, "Ya"), (0x0430, "a"), (0x0431, "b"), (0x0432, "v"), (0x0433, "g"), (0x0434, "d"),
    (0x0435, "e"), (0x0436, "zh"), (0x0437, "z"), (0x0438, "i"), (0x0439, "y"), (0x043A, "k"),
    (0x043B, "l"), (0x043C, "m"), (0x043D, "n"), (0x043E, "o"), (0x043F, "p"), (0x0440, "r"),
    (0x0441, "s"), (0x0442, "t"), (0x0443, "u"), (0x0444, "f"), (0x0445, "kh"), (0x0446, "ts"),
    (0x0447, "ch"), (0x0448, "sh"), (0x0449, "shch"), (0x044B, "y"), (0x044D, "e"), (0x044E, "yu"),
    (0x044F, "ya"), (0x05D0, "\x27"), (0x05E9, "s"), (0x0639, "\x60"), (0x0645, "m"), (0x0669, "9"),
    (0x0905, "a"), (0x0E01, "k"), (0x1E00, "A"), (0x1E01, "a"), (0x1E02, "B"), (0x1E03, "b"),
    (0x1E04, "B"), (0x1E05, "b"), (0x1E06, "B"), (0x1E07, "b"), (0x1E08, "C"), (0x1E09, "c"),
    (0x1E0A, "D"), (0x1E0B, "d"), (0x1E0C, "D"), (0x1E0D, "d"), (0x1E0E, "D"), (0x1E0F, "d"),
    (0x1E10, "D"), (0x1E11, "d"), (0x1E12, "D"), (0x1E13, "d"), (0x1E14, "E"), (0x1E15, "e"),
    (0x1E16, "E"), (0x1E17, "e"), (0x1E18, "E"), (0x1E19, "e"), (0x1E1A, "E"), (0x1E1B, "e"),
    (0x1E1C, "E"), (0x1E1D, "e"), (0x1E1E, "F"), (0x1E1F, "f"), (0x1E20, "G"), (0x1E21, "g"),
    (0x1E22, "H"), (0x1E23, "h"), (0x1E24, "H"), (0x1E25, "h"), (0x1E26, "H"), (0x1E27, "h"),
    (0x1E28, "H"), (0x1E29, "h"), (0x1E2A, "H"), (0x1E2B, "h"), (0x1E2C, "I"), (0x1E2D, "i"),
    (0x1E2E, "I"), (0x1E2F, "i"), (0x1E30, "K"), (0x1E31, "k"), (0x1E32, "K"), (0x1E33, "k"),
    (0x1E34, "K"), (0x1E35, "k"), (0x1E36, "L"), (0x1E37, "l"), (0x1E38, "L"), (0x1E39, "l"),
    (0x1E3A, "L"), (0x1E3B, "l"), (0x1E3C, "L"), (0x1E3D, "l"), (0x1E3E, "M"), (0x1E3F, "m"),
    (0x1E40, "M"), (0x1E41, "m"), (0x1E42, "M"), (0x1E43, "m"), (0x1E44, "N"), (0x1E45, "n"),
    (0x1E46, "N"), (0x1E47, "n"), (0x1E48, "N"), (0x1E49, "n"), (0x1E4A, "N"), (0x1E4B, "n"),
    (0x1E4C, "O"), (0x1E4D, "o"), (0x1E4E, "O"), (0x1E4F, "o"), (0x1E50, "O"), (0x1E51, "o"),
    (0x1E52, "O"), (0x1E53, "o"), (0x1E54, "P"), (0x1E55, "p"), (0x1E56, "P"), (0x1E57, "p"),
    (0x1E58, "R"), (0x1E59, "r"), (0x1E5A, "R"), (0x1E5B, "r"), (0x1E5C, "R"), (0x1E5D, "r"),
    (0x1E5E, "R"), (0x1E5F, "r"), (0x1E60, "S"), (0x1E61, "s"), (0x1E62, "S"), (0x1E63, "s"),
    (0x1E64, "S"), (0x1E65, "s"), (0x1E66, "S"), (0x1E67, "s"), (0x1E68, "S"), (0x1E69, "s"),
    (0x1E6A, "T"), (0x1E6B, "t"), (0x1E6C, "T"), (0x1E6D, "t"), (0x1E6E, "T"), (0x1E6F, "t"),
    (0x1E70, "T"), (0x1E71, "t"), (0x1E72, "U"), (0x1E73, "u"), (0x1E74, "U"), (0x1E75, "u"),
    (0x1E76, "U"), (0x1E77, "u"), (0x1E78, "U"), (0x1E79, "u"), (0x1E7A, "U"), (0x1E7B, "u"),
    (0x1E7C, "V"), (0x1E7D, "v"), (0x1E7E, "V"), (0x1E7F, "v"), (0x1E80, "W"), (0x1E81, "w"),
    (0x1E82, "W"), (0x1E83, "w"), (0x1E84, "W"), (0x1E85, "w"), (0x1E86, "W"), (0x1E87, "w"),
    (0x1E88, "W"), (0x1E89, "w"), (0x1E8A, "X"), (0x1E8B, "x"), (0x1E8C, "X"), (0x1E8D, "x"),
    (0x1E8E, "Y"), (0x1E8F, "y"), (0x1E90, "Z"), (0x1E91, "z"), (0x1E92, "Z"), (0x1E93, "z"),
    (0x1E94, "Z"), (0x1E95, "z"), (0x1E96, "h"), (0x1E97, "t"), (0x1E98, "w"), (0x1E99, "y"),
    (0x1E9E, "Ss"), (0x1EA0, "A"), (0x1EA1, "a"), (0x1EA2, "A"), (0x1EA3, "a"), (0x1EA4, "A"),
    (0x1EA5, "a"), (0x1EA6, "A"), (0x1EA7, "a"), (0x1EA8, "A"), (0x1EA9, "a"), (0x1EAA, "A"),
    (0x1EAB, "a"), (0x1EAC, "A"), (0x1EAD, "a"), (0x1EAE, "A"), (0x1EAF, "a"), (0x1EB0, "A"),
    (0x1EB1, "a"), (0x1EB2, "A"), (0x1EB3, "a"), (0x1EB4, "A"), (0x1EB5, "a"), (0x1EB6, "A"),
    (0x1EB7, "a"), (0x1EB8, "E"), (0x1EB9, "e"), (0x1EBA, "E"), (0x1EBB, "e"), (0x1EBC, "E"),
    (0x1EBD, "e"), (0x1EBE, "E"), (0x1EBF, "e"), (0x1EC0, "E"), (0x1EC1, "e"), (0x1EC2, "E"),
    (0x1EC3, "e"), (0x1EC4, "E"), (0x1EC5, "e"), (0x1EC6, "E"), (0x1EC7, "e"), (0x1EC8, "I"),
    (0x1EC9, "i"), (0x1ECA, "I"), (0x1ECB, "i"), (0x1ECC, "O"), (0x1ECD, "o"), (0x1ECE, "O"),
    (0x1ECF, "o"), (0x1ED0, "O"), (0x1ED1, "o"), (0x1ED2, "O"), (0x1ED3, "o"), (0x1ED4, "O"),
    (0x1ED5, "o"), (0x1ED6, "O"), (0x1ED7, "o"), (0x1ED8, "O"), (0x1ED9, "o"), (0x1EDA, "O"),
    (0x1EDB, "o"), (0x1EDC, "O"), (0x1EDD, "o"), (0x1EDE, "O"), (0x1EDF, "o"), (0x1EE0, "O"),
    (0x1EE1, "o"), (0x1EE2, "O"), (0x1EE3, "o"), (0x1EE4, "U"), (0x1EE5, "u"), (0x1EE6, "U"),
    (0x1EE7, "u"), (0x1EE8, "U"), (0x1EE9, "u"), (0x1EEA, "U"), (0x1EEB, "u"), (0x1EEC, "U"),
    (0x1EED, "u"), (0x1EEE, "U"), (0x1EEF, "u"), (0x1EF0, "U"), (0x1EF1, "u"), (0x1EF2, "Y"),
    (0x1EF3, "y"), (0x1EF4, "Y"), (0x1EF5, "y"), (0x1EF6, "Y"), (0x1EF7, "y"), (0x1EF8, "Y"),
    (0x1EF9, "y"), (0x2003, " "), (0x200B, ""), (0x200D, ""), (0x2013, "-"), (0x2014, "-"),
    (0x2018, "\x27"), (0x2019, "\x27"), (0x201C, "\""), (0x201D, "\""), (0x2022, "*"),
    (0x2026, "..."), (0x2028, " "), (0x20AC, "EUR"), (0x2116, "No"), (0x2122, "TM"), (0x212A, "K"),
    (0x2603, ":snowman2:"), (0x2764, ":heart:"), (0x3000, " "), (0x304B, "ka"), (0x30AB, "ka"),
    (0x30BF, "ta"), (0x30CA, "na"), (0x4E88, "Yu"), (0x4EAC, "Jing"), (0x5317, "Bei"),
    (0x5831, "Bao"), (0x5929, "Tian"), (0x65E5, "Ri"), (0x672C, "Ben"), (0x6771, "Dong"),
    (0x6C17, "Qi"), (0xAE00, "Geul"), (0xD55C, "Han"), (0xE000, ""), (0xFB01, "fi"), (0xFEFF, ""),
    (0xFF01, "!"), (0xFF02, "\""), (0xFF03, "#"), (0xFF04, "$"), (0xFF05, "%"), (0xFF06, "&"),
    (0xFF07, "\x27"), (0xFF08, "("), (0xFF09, ")"), (0xFF0A, "*"), (0xFF0B, "+"), (0xFF0C, ","),
    (0xFF0D, "-"), (0xFF0E, "."), (0xFF0F, "/"), (0xFF10, "0"), (0xFF11, "1"), (0xFF12, "2"),
    (0xFF13, "3"), (0xFF14, "4"), (0xFF15, "5"), (0xFF16, "6"), (0xFF17, "7"), (0xFF18, "8"),
    (0xFF19, "9"), (0xFF1A, ":"), (0xFF1B, ";"), (0xFF1C, "<"), (0xFF1D, "="), (0xFF1E, ">"),
    (0xFF1F, "?"), (0xFF20, "@"), (0xFF21, "A"), (0xFF22, "B"), (0xFF23, "C"), (0xFF24, "D"),
    (0xFF25, "E"), (0xFF26, "F"), (0xFF27, "G"), (0xFF28, "H"), (0xFF29, "I"), (0xFF2A, "J"),
    (0xFF2B, "K"), (0xFF2C, "L"), (0xFF2D, "M"), (0xFF2E, "N"), (0xFF2F, "O"), (0xFF30, "P"),
    (0xFF31, "Q"), (0xFF32, "R"), (0xFF33, "S"), (0xFF34, "T"), (0xFF35, "U"), (0xFF36, "V"),
    (0xFF37, "W"), (0xFF38, "X"), (0xFF39, "Y"), (0xFF3A, "Z"), (0xFF3B, "["), (0xFF3C, "\\"),
    (0xFF3D, "]"), (0xFF3E, "^"), (0xFF3F, "_"), (0xFF40, "\x60"), (0xFF41, "a"), (0xFF42, "b"),
    (0xFF43, "c"), (0xFF44, "d"), (0xFF45, "e"), (0xFF46, "f"), (0xFF47, "g"), (0xFF48, "h"),
    (0xFF49, "i"), (0xFF4A, "j"), (0xFF4B, "k"), (0xFF4C, "l"), (0xFF4D, "m"), (0xFF4E, "n"),
    (0xFF4F, "o"), (0xFF50, "p"), (0xFF51, "q"), (0xFF52, "r"), (0xFF53, "s"), (0xFF54, "t"),
    (0xFF55, "u"), (0xFF56, "v"), (0xFF57, "w"), (0xFF58, "x"), (0xFF59, "y"), (0xFF5A, "z"),
    (0xFF5B, "\x7b"), (0xFF5C, "|"), (0xFF5D, "\x7d"), (0xFF5E, "~"), (0x1F600, ":grinning:"),
    (0x1F680, ":rocket:")]

end OpenApiClient.Text
