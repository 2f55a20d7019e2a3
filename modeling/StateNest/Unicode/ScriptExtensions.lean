import StateNest.Unicode.Script

/-!
# Script extensions

A character that several scripts share lists them here; every other
character counts for its own script only. So a character of the `Common`
script leaves it once the scripts that use it are listed.
-/

set_option autoImplicit false

namespace StateNest

namespace Script

/-- Shared characters and the codes of the scripts that use them. -/
def shared : List (CodePointSet × List String) :=
  [(.ofText "B7",
     ["Avst", "Cari", "Copt", "Dupl", "Elba", "Geor", "Glag", "Gong", "Goth", "Grek", "Hani",
      "Latn", "Lydi", "Mahj", "Perm", "Shaw"]),
   (.ofText "2BC",
     ["Beng", "Cyrl", "Deva", "Latn", "Lisu", "Thai", "Toto"]),
   (.ofText "2C7 2C9-2CB 2D9",
     ["Bopo", "Latn"]),
   (.ofText "2CD",
     ["Latn", "Lisu"]),
   (.ofText "2D7",
     ["Latn", "Thai"]),
   (.ofText "300",
     ["Cher", "Copt", "Cyrl", "Grek", "Latn", "Perm", "Sunu", "Tale"]),
   (.ofText "301",
     ["Cher", "Cyrl", "Grek", "Latn", "Osge", "Sunu", "Tale", "Todr"]),
   (.ofText "302",
     ["Cher", "Cyrl", "Latn", "Tfng"]),
   (.ofText "303",
     ["Glag", "Latn", "Sunu", "Syrc", "Thai"]),
   (.ofText "304",
     ["Aghb", "Cher", "Copt", "Cyrl", "Goth", "Grek", "Latn", "Osge", "Syrc", "Tfng", "Todr"]),
   (.ofText "305",
     ["Copt", "Elba", "Glag", "Goth", "Kana", "Latn"]),
   (.ofText "306",
     ["Cyrl", "Grek", "Latn", "Perm", "Tfng"]),
   (.ofText "307",
     ["Copt", "Dupl", "Hebr", "Latn", "Perm", "Syrc", "Tale", "Tfng", "Todr"]),
   (.ofText "308",
     ["Armn", "Cyrl", "Dupl", "Goth", "Grek", "Hebr", "Latn", "Perm", "Syrc", "Tale", "Tfng"]),
   (.ofText "309",
     ["Latn", "Tfng"]),
   (.ofText "30A",
     ["Dupl", "Latn", "Syrc"]),
   (.ofText "30B",
     ["Cher", "Cyrl", "Latn", "Osge"]),
   (.ofText "30C",
     ["Cher", "Latn", "Tale"]),
   (.ofText "30D 310",
     ["Latn", "Sunu"]),
   (.ofText "30E",
     ["Ethi", "Latn"]),
   (.ofText "311",
     ["Cyrl", "Latn", "Todr"]),
   (.ofText "313",
     ["Grek", "Latn", "Perm", "Todr"]),
   (.ofText "323",
     ["Cher", "Dupl", "Kana", "Latn", "Syrc", "Tfng"]),
   (.ofText "324",
     ["Cher", "Dupl", "Latn", "Syrc"]),
   (.ofText "325 32E",
     ["Latn", "Syrc"]),
   (.ofText "32D",
     ["Latn", "Sunu", "Syrc"]),
   (.ofText "330",
     ["Cher", "Latn", "Syrc"]),
   (.ofText "331",
     ["Aghb", "Cher", "Goth", "Latn", "Sunu", "Syrc", "Thai"]),
   (.ofText "342 345 1DC0-1DC1",
     ["Grek"]),
   (.ofText "358",
     ["Latn", "Osge"]),
   (.ofText "35E",
     ["Aghb", "Latn", "Todr"]),
   (.ofText "363-36F",
     ["Latn"]),
   (.ofText "374-375",
     ["Copt", "Grek"]),
   (.ofText "483",
     ["Cyrl", "Perm"]),
   (.ofText "484 487 2E43 A66F",
     ["Cyrl", "Glag"]),
   (.ofText "485-486",
     ["Cyrl", "Latn"]),
   (.ofText "589",
     ["Armn", "Geor", "Glag"]),
   (.ofText "60C 61B",
     ["Arab", "Gara", "Nkoo", "Rohg", "Syrc", "Thaa", "Yezi"]),
   (.ofText "61C",
     ["Arab", "Syrc", "Thaa"]),
   (.ofText "61F",
     ["Adlm", "Arab", "Gara", "Nkoo", "Rohg", "Syrc", "Thaa", "Yezi"]),
   (.ofText "640",
     ["Adlm", "Arab", "Mand", "Mani", "Ougr", "Phlp", "Rohg", "Sogd", "Syrc"]),
   (.ofText "64B-655 670",
     ["Arab", "Syrc"]),
   (.ofText "660-669",
     ["Arab", "Thaa", "Yezi"]),
   (.ofText "6D4",
     ["Arab", "Rohg"]),
   (.ofText "951",
     ["Beng", "Deva", "Gran", "Gujr", "Guru", "Knda", "Latn", "Mlym", "Nand", "Newa", "Orya",
      "Shrd", "Taml", "Telu", "Tirh"]),
   (.ofText "952",
     ["Beng", "Deva", "Gran", "Gujr", "Guru", "Knda", "Latn", "Mlym", "Newa", "Orya", "Taml",
      "Telu", "Tirh"]),
   (.ofText "964",
     ["Beng", "Deva", "Dogr", "Gong", "Gonm", "Gran", "Gujr", "Guru", "Knda", "Mahj", "Mlym",
      "Nand", "Onao", "Orya", "Sind", "Sinh", "Sylo", "Takr", "Taml", "Telu", "Tirh"]),
   (.ofText "965",
     ["Beng", "Deva", "Dogr", "Gong", "Gonm", "Gran", "Gujr", "Gukh", "Guru", "Knda", "Limb",
      "Mahj", "Mlym", "Nand", "Onao", "Orya", "Sind", "Sinh", "Sylo", "Takr", "Taml",
      "Telu", "Tirh"]),
   (.ofText "966-96F",
     ["Deva", "Dogr", "Kthi", "Mahj"]),
   (.ofText "9E6-9EF",
     ["Beng", "Cakm", "Sylo"]),
   (.ofText "A66-A6F",
     ["Guru", "Mult"]),
   (.ofText "AE6-AEF",
     ["Gujr", "Khoj"]),
   (.ofText "BE6-BF3 11301 11303 1133B-1133C 11FD0-11FD1 11FD3",
     ["Gran", "Taml"]),
   (.ofText "CE6-CEF",
     ["Knda", "Nand", "Tutg"]),
   (.ofText "1040-1049",
     ["Cakm", "Mymr", "Tale"]),
   (.ofText "10FB",
     ["Geor", "Glag", "Latn"]),
   (.ofText "16EB-16ED",
     ["Runr"]),
   (.ofText "1735-1736",
     ["Buhd", "Hano", "Tagb", "Tglg"]),
   (.ofText "1802-1803 1805",
     ["Mong", "Phag"]),
   (.ofText "1CD0 1CD2",
     ["Beng", "Deva", "Gran", "Knda"]),
   (.ofText "1CD1 1CD4 1CDB 1CDE-1CDF 1CE3-1CE8 1CEC 1CEE-1CF1",
     ["Deva"]),
   (.ofText "1CD3",
     ["Deva", "Gran", "Knda"]),
   (.ofText "1CD5",
     ["Beng", "Deva", "Newa", "Telu", "Tirh"]),
   (.ofText "1CD6",
     ["Beng", "Deva", "Telu"]),
   (.ofText "1CD7",
     ["Deva", "Newa", "Shrd"]),
   (.ofText "1CD8",
     ["Beng", "Deva", "Newa", "Telu"]),
   (.ofText "1CD9 1CDC-1CDD 1CE0",
     ["Deva", "Shrd"]),
   (.ofText "1CDA",
     ["Deva", "Knda", "Mlym", "Orya", "Taml", "Telu"]),
   (.ofText "1CE1 1CF5-1CF6",
     ["Beng", "Deva"]),
   (.ofText "1CE2",
     ["Deva", "Newa", "Tirh"]),
   (.ofText "1CE9",
     ["Deva", "Nand", "Newa"]),
   (.ofText "1CEA",
     ["Beng", "Deva", "Shrd"]),
   (.ofText "1CEB",
     ["Deva", "Newa"]),
   (.ofText "1CED",
     ["Beng", "Deva", "Newa", "Shrd"]),
   (.ofText "1CF2",
     ["Beng", "Deva", "Gran", "Knda", "Mlym", "Nand", "Orya", "Sinh", "Telu", "Tirh", "Tutg"]),
   (.ofText "1CF3 1CF8-1CF9",
     ["Deva", "Gran"]),
   (.ofText "1CF4",
     ["Deva", "Gran", "Knda", "Tutg"]),
   (.ofText "1CF7",
     ["Beng"]),
   (.ofText "1CFA",
     ["Nand"]),
   (.ofText "1DF8",
     ["Cyrl", "Latn", "Syrc"]),
   (.ofText "1DFA",
     ["Syrc"]),
   (.ofText "202F",
     ["Latn", "Mong", "Phag"]),
   (.ofText "204F",
     ["Adlm", "Arab"]),
   (.ofText "205A",
     ["Cari", "Geor", "Glag", "Hung", "Lyci", "Orkh"]),
   (.ofText "205D",
     ["Cari", "Grek", "Hung", "Mero"]),
   (.ofText "20F0",
     ["Deva", "Gran", "Latn"]),
   (.ofText "2E17",
     ["Copt", "Latn"]),
   (.ofText "2E30",
     ["Avst", "Orkh"]),
   (.ofText "2E31",
     ["Avst", "Cari", "Geor", "Hung", "Kthi", "Lydi", "Samr"]),
   (.ofText "2E3C 1BCA0-1BCA3",
     ["Dupl"]),
   (.ofText "2E41",
     ["Adlm", "Arab", "Hung"]),
   (.ofText "2FF0-2FFF 31EF",
     ["Hani", "Tang"]),
   (.ofText "3001",
     ["Bopo", "Hang", "Hani", "Hira", "Kana", "Mong", "Yiii"]),
   (.ofText "3002",
     ["Bopo", "Hang", "Hani", "Hira", "Kana", "Mong", "Phag", "Yiii"]),
   (.ofText "3003 3013 301C-301F 3030 3037 FE45-FE46",
     ["Bopo", "Hang", "Hani", "Hira", "Kana"]),
   (.ofText ("3006 303E-303F 3190-319F 31C0-31E5 3220-3247 3280-32B0 32C0-32CB 32FF " ++
       "3358-3370 337B-337F 33E0-33FE 1D360-1D371 1F250-1F251"),
     ["Hani"]),
   (.ofText "3008-3009",
     ["Bopo", "Hang", "Hani", "Hira", "Kana", "Mong", "Tibt", "Yiii"]),
   (.ofText "300A-300B",
     ["Bopo", "Hang", "Hani", "Hira", "Kana", "Lisu", "Mong", "Tibt", "Yiii"]),
   (.ofText "300C-3011 3014-301B 30FB FF61-FF65",
     ["Bopo", "Hang", "Hani", "Hira", "Kana", "Yiii"]),
   (.ofText "302A-302D",
     ["Bopo", "Hani"]),
   (.ofText "3031-3035 3099-309C 30A0 30FC FF70 FF9E-FF9F",
     ["Hira", "Kana"]),
   (.ofText "303C-303D",
     ["Hani", "Hira", "Kana"]),
   (.ofText "A700-A707",
     ["Hani", "Latn"]),
   (.ofText "A830-A832",
     ["Deva", "Dogr", "Gujr", "Guru", "Khoj", "Knda", "Kthi", "Mahj", "Mlym", "Modi", "Nand",
      "Shrd", "Sind", "Takr", "Tirh", "Tutg"]),
   (.ofText "A833-A835",
     ["Deva", "Dogr", "Gujr", "Guru", "Khoj", "Knda", "Kthi", "Mahj", "Modi", "Nand", "Shrd",
      "Sind", "Takr", "Tirh", "Tutg"]),
   (.ofText "A836-A837 A839",
     ["Deva", "Dogr", "Gujr", "Guru", "Khoj", "Kthi", "Mahj", "Modi", "Sind", "Takr", "Tirh"]),
   (.ofText "A838",
     ["Deva", "Dogr", "Gujr", "Guru", "Khoj", "Kthi", "Mahj", "Modi", "Shrd", "Sind", "Takr",
      "Tirh"]),
   (.ofText "A8F1",
     ["Beng", "Deva", "Tutg"]),
   (.ofText "A8F3",
     ["Deva", "Taml"]),
   (.ofText "A92E",
     ["Kali", "Latn", "Mymr"]),
   (.ofText "A9CF",
     ["Bugi", "Java"]),
   (.ofText "FD3E-FD3F",
     ["Arab", "Nkoo"]),
   (.ofText "FDF2 FDFD",
     ["Arab", "Thaa"]),
   (.ofText "10100-10101",
     ["Cpmn", "Cprt", "Linb"]),
   (.ofText "10102 10137-1013F",
     ["Cprt", "Linb"]),
   (.ofText "10107-10133",
     ["Cprt", "Lina", "Linb"]),
   (.ofText "102E0-102FB",
     ["Arab", "Copt"]),
   (.ofText "10AF2",
     ["Mani", "Ougr"])]

def sharedPoints : CodePointSet := .unions (shared.map Prod.fst)

/-- The characters that are used by a script, shared ones included. -/
def extendedPoints (script : Script) : CodePointSet :=
  (script.points \ sharedPoints) ++
    .unions ((shared.filter fun entry => entry.2.contains script.code).map Prod.fst)

end Script
end StateNest
