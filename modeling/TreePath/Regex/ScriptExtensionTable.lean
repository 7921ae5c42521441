namespace TreePath.Regex

-- Code points that are used in a script without being its own, Unicode 16.0. The entries of Common and Inherited list
-- what no single script claims.
def scriptExtensionTable : String := "
Adlam Adlm: 61F 640 204F 2E41;
Arabic Arab: 60C 61B 61F 640 64B-655 670 204F 2E41 FD3E-FD3F 102E0-102FB;
Armenian Armn: 308;
Avestan Avst: B7 2E30-2E31;
Bengali Beng: 2BC 951-952 964-965 1CD0 1CD2 1CD5-1CD6 1CD8 1CE1 1CEA 1CED 1CF2 1CF5-1CF7 A8F1;
Bopomofo Bopo: 2C7 2C9-2CB 2D9 3001-3003 3008-3011 3013-301F 302A-302D 3030 3037 30FB FE45-FE46
FF61-FF65;
Buginese Bugi: A9CF;
Buhid Buhd: 1735-1736;
Carian Cari: B7 205A 205D 2E31;
Caucasian_Albanian Aghb: 304 331 35E;
Chakma Cakm: 9E6-9EF 1040-1049;
Cherokee Cher: 300-302 304 30B-30C 323-324 330-331;
Common Zyyy: 0-40 5B-60 7B-A9 AB-B6 B8-B9 BB-BF D7 F7 2B9-2BB 2BD-2C6 2C8 2CC 2CE-2D6 2D8 2DA-2DF
2E5-2E9 2EC-2FF 37E 385 387 605 6DD 8E2 E3F FD5-FD8 2000-200B 200E-202E 2030-204E 2050-2059
205B-205C 205E-2064 2066-2070 2074-207E 2080-208E 20A0-20C0 2100-2125 2127-2129 212C-2131
2133-214D 214F-215F 2189-218B 2190-2429 2440-244A 2460-27FF 2900-2B73 2B76-2B95 2B97-2BFF
2E00-2E16 2E18-2E2F 2E32-2E3B 2E3D-2E40 2E42 2E44-2E5D 3000 3004 3012 3020 3036 3248-325F 327F
32B1-32BF 32CC-32CF 3371-337A 3380-33DF 33FF 4DC0-4DFF A708-A721 A788-A78A AB5B AB6A-AB6B
FE10-FE19 FE30-FE44 FE47-FE52 FE54-FE66 FE68-FE6B FEFF FF01-FF20 FF3B-FF40 FF5B-FF60 FFE0-FFE6
FFE8-FFEE FFF9-FFFD 10190-1019C 101D0-101FC 1CC00-1CCF9 1CD00-1CEB3 1CF50-1CFC3 1D000-1D0F5
1D100-1D126 1D129-1D166 1D16A-1D17A 1D183-1D184 1D18C-1D1A9 1D1AE-1D1EA 1D2C0-1D2D3 1D2E0-1D2F3
1D300-1D356 1D372-1D378 1D400-1D454 1D456-1D49C 1D49E-1D49F 1D4A2 1D4A5-1D4A6 1D4A9-1D4AC
1D4AE-1D4B9 1D4BB 1D4BD-1D4C3 1D4C5-1D505 1D507-1D50A 1D50D-1D514 1D516-1D51C 1D51E-1D539
1D53B-1D53E 1D540-1D544 1D546 1D54A-1D550 1D552-1D6A5 1D6A8-1D7CB 1D7CE-1D7FF 1EC71-1ECB4
1ED01-1ED3D 1F000-1F02B 1F030-1F093 1F0A0-1F0AE 1F0B1-1F0BF 1F0C1-1F0CF 1F0D1-1F0F5 1F100-1F1AD
1F1E6-1F1FF 1F201-1F202 1F210-1F23B 1F240-1F248 1F260-1F265 1F300-1F6D7 1F6DC-1F6EC 1F6F0-1F6FC
1F700-1F776 1F77B-1F7D9 1F7E0-1F7EB 1F7F0 1F800-1F80B 1F810-1F847 1F850-1F859 1F860-1F887
1F890-1F8AD 1F8B0-1F8BB 1F8C0-1F8C1 1F900-1FA53 1FA60-1FA6D 1FA70-1FA7C 1FA80-1FA89 1FA8F-1FAC6
1FACE-1FADC 1FADF-1FAE9 1FAF0-1FAF8 1FB00-1FB92 1FB94-1FBF9 E0001 E0020-E007F;
Coptic Copt Qaac: B7 300 304-305 307 374-375 2E17 102E0-102FB;
Cypriot Cprt: 10100-10102 10107-10133 10137-1013F;
Cypro_Minoan Cpmn: 10100-10101;
Cyrillic Cyrl: 2BC 300-302 304 306 308 30B 311 485-486 1DF8 2E43;
Devanagari Deva: 2BC 951-952 964-965 1CD0-1CF6 1CF8-1CF9 20F0 A830-A839;
Dogra Dogr: 964-96F A830-A839;
Duployan Dupl: B7 307-308 30A 323-324 2E3C 1BCA0-1BCA3;
Elbasan Elba: B7 305;
Ethiopic Ethi: 30E;
Garay Gara: 60C 61B 61F;
Georgian Geor: B7 589 10FB 205A 2E31;
Glagolitic Glag: B7 303 305 484 487 589 10FB 205A 2E43 A66F;
Gothic Goth: B7 304-305 308 331;
Grantha Gran: 951-952 964-965 BE6-BF3 1CD0 1CD2-1CD3 1CF2-1CF4 1CF8-1CF9 20F0 1133B 11FD0-11FD1
11FD3;
Greek Grek: B7 300-301 304 306 308 313 342 345 374 1DC0-1DC1 205D;
Gujarati Gujr: 951-952 964-965 A830-A839;
Gunjala_Gondi Gong: B7 964-965;
Gurmukhi Guru: 951-952 964-965 A830-A839;
Gurung_Khema Gukh: 965;
Han Hani: B7 2FF0-2FFF 3001-3003 3006 3008-3011 3013-301F 302A-302D 3030 3037 303C-303F 30FB
3190-319F 31C0-31E5 31EF 3220-3247 3280-32B0 32C0-32CB 32FF 3358-3370 337B-337F 33E0-33FE
A700-A707 FE45-FE46 FF61-FF65 1D360-1D371 1F250-1F251;
Hangul Hang: 3001-3003 3008-3011 3013-301F 3030 3037 30FB FE45-FE46 FF61-FF65;
Hanifi_Rohingya Rohg: 60C 61B 61F 640 6D4;
Hanunoo Hano: 1735-1736;
Hebrew Hebr: 307-308;
Hiragana Hira: 3001-3003 3008-3011 3013-301F 3030-3035 3037 303C-303D 3099-309C 30A0 30FB-30FC
FE45-FE46 FF61-FF65 FF70 FF9E-FF9F;
Inherited Qaai Zinh: 30F 312 314-31F 321-322 326-32C 32F 332-341 343-344 346-357 359-35D 35F-362
953-954 1AB0-1ACE 1DC2-1DF7 1DF9 1DFB-1DFF 200C-200D 20D0-20EF FE00-FE0F FE20-FE2D 101FD
1CF00-1CF2D 1CF30-1CF46 1D167-1D169 1D17B-1D182 1D185-1D18B 1D1AA-1D1AD E0100-E01EF;
Javanese Java: A9CF;
Kaithi Kthi: 966-96F 2E31 A830-A839;
Kannada Knda: 951-952 964-965 1CD0 1CD2-1CD3 1CDA 1CF2 1CF4 A830-A835;
Katakana Kana: 305 323 3001-3003 3008-3011 3013-301F 3030-3035 3037 303C-303D 3099-309C 30A0
30FB-30FC FE45-FE46 FF61-FF65 FF70 FF9E-FF9F;
Kayah_Li Kali: A92E;
Khojki Khoj: AE6-AEF A830-A839;
Khudawadi Sind: 964-965 A830-A839;
Latin Latn: B7 2BC 2C7 2C9-2CB 2CD 2D7 2D9 300-30E 310-311 313 320 323-325 32D-32E 330-331 358 35E
363-36F 485-486 951-952 10FB 1DF8 202F 20F0 2E17 A700-A707 A92E;
Limbu Limb: 965;
Linear_A Lina: 10107-10133;
Linear_B Linb: 10100-10102 10107-10133 10137-1013F;
Lisu: 2BC 2CD 300A-300B;
Lycian Lyci: 205A;
Lydian Lydi: B7 2E31;
Mahajani Mahj: B7 964-96F A830-A839;
Malayalam Mlym: 951-952 964-965 1CDA 1CF2 A830-A832;
Mandaic Mand: 640;
Manichaean Mani: 640;
Masaram_Gondi Gonm: 964-965;
Meroitic_Hieroglyphs Mero: 205D;
Modi: A830-A839;
Mongolian Mong: 1802-1803 1805 202F 3001-3002 3008-300B;
Multani Mult: A66-A6F;
Myanmar Mymr: A92E;
Nandinagari Nand: 964-965 CE6-CEF 1CE9 1CF2 1CFA A830-A835;
Nko Nkoo: 60C 61B 61F FD3E-FD3F;
Ol_Onal Onao: 964-965;
Old_Hungarian Hung: 205A 205D 2E31 2E41;
Old_Permic Perm: B7 300 306-308 313 483;
Old_Turkic Orkh: 205A 2E30;
Old_Uyghur Ougr: 640 10AF2;
Oriya Orya: 951-952 964-965 1CDA 1CF2;
Osage Osge: 301 304 30B 358;
Phags_Pa Phag: 1802-1803 1805 202F 3002;
Psalter_Pahlavi Phlp: 640;
Runic Runr: 16EB-16ED;
Samaritan Samr: 2E31;
Sharada Shrd: 951 1CD7 1CD9 1CDC-1CDD 1CE0 A830-A835 A838;
Shavian Shaw: B7;
Sinhala Sinh: 964-965 1CF2;
Sogdian Sogd: 640;
Sunuwar Sunu: 300-301 303 30D 310 32D 331;
Syloti_Nagri Sylo: 964-965 9E6-9EF;
Syriac Syrc: 303-304 307-308 30A 320 323-325 32D-32E 330 60C 61B-61C 61F 640 64B-655 670 1DF8 1DFA;
Tagalog Tglg: 1735-1736;
Tagbanwa Tagb: 1735-1736;
Tai_Le Tale: 300-301 307-308 30C 1040-1049;
Takri Takr: 964-965 A830-A839;
Tamil Taml: 951-952 964-965 1CDA A8F3 11301 11303 1133B-1133C;
Tangut Tang: 2FF0-2FFF 31EF;
Telugu Telu: 951-952 964-965 1CDA 1CF2;
Thaana Thaa: 60C 61B-61C 61F 660-669 FDF2 FDFD;
Thai: 2BC 2D7 303 331;
Tibetan Tibt: 3008-300B;
Tifinagh Tfng: 302 304 307 309;
Tirhuta Tirh: 951-952 964-965 1CF2 A830-A839;
Todhri Todr: 301 304 307 311 313 35E;
Toto: 2BC;
Tulu_Tigalari Tutg: CE6-CEF 1CF2 1CF4 A830-A835 A8F1;
Yezidi Yezi: 60C 61B 61F 660-669;
Yi Yiii: 3001-3002 3008-3011 3014-301B 30FB FF61-FF65
"

end TreePath.Regex
