/-!
# Script extensions

Code points that are used with other scripts than their own, under the short names of those scripts.
-/

namespace Highlight.Unicode

/-- Code points by the set of scripts they are used with, where that is not just their own script. -/
def scriptExtensionTable : List (String × List String) := [
  ("adlm arab",
    ["204f"]),
  ("adlm arab gara nkoo rohg syrc thaa yezi",
    ["61f"]),
  ("adlm arab hung",
    ["2e41"]),
  ("adlm arab mand mani ougr phlp rohg sogd syrc",
    ["640"]),
  ("aghb cher copt cyrl goth grek latn osge syrc tfng todr",
    ["304"]),
  ("aghb cher goth latn sunu syrc thai",
    ["331"]),
  ("aghb latn todr",
    ["35e"]),
  ("arab copt",
    ["102e0-102fb"]),
  ("arab gara nkoo rohg syrc thaa yezi",
    ["60c 61b"]),
  ("arab nkoo",
    ["fd3e-fd3f"]),
  ("arab rohg",
    ["6d4"]),
  ("arab syrc",
    ["64b-655 670"]),
  ("arab syrc thaa",
    ["61c"]),
  ("arab thaa",
    ["fdf2 fdfd"]),
  ("arab thaa yezi",
    ["660-669"]),
  ("armn cyrl dupl goth grek hebr latn perm syrc tale tfng",
    ["308"]),
  ("armn geor glag",
    ["589"]),
  ("avst cari copt dupl elba geor glag gong goth grek hani latn lydi mahj perm shaw",
    ["b7"]),
  ("avst cari geor hung kthi lydi samr",
    ["2e31"]),
  ("avst orkh",
    ["2e30"]),
  ("beng",
    ["1cf7"]),
  ("beng cakm sylo",
    ["9e6-9ef"]),
  ("beng cyrl deva latn lisu thai toto",
    ["2bc"]),
  ("beng deva",
    ["1ce1 1cf5-1cf6"]),
  ("beng deva dogr gong gonm gran gujr gukh guru knda limb mahj mlym nand onao orya sind sinh sylo takr taml telu tirh",
    ["965"]),
  ("beng deva dogr gong gonm gran gujr guru knda mahj mlym nand onao orya sind sinh sylo takr taml telu tirh",
    ["964"]),
  ("beng deva gran gujr guru knda latn mlym nand newa orya shrd taml telu tirh",
    ["951"]),
  ("beng deva gran gujr guru knda latn mlym newa orya taml telu tirh",
    ["952"]),
  ("beng deva gran knda",
    ["1cd0 1cd2"]),
  ("beng deva gran knda mlym nand orya sinh telu tirh tutg",
    ["1cf2"]),
  ("beng deva newa shrd",
    ["1ced"]),
  ("beng deva newa telu",
    ["1cd8"]),
  ("beng deva newa telu tirh",
    ["1cd5"]),
  ("beng deva shrd",
    ["1cea"]),
  ("beng deva telu",
    ["1cd6"]),
  ("beng deva tutg",
    ["a8f1"]),
  ("bopo hang hani hira kana",
    ["3003 3013 301c-301f 3030 3037 fe45-fe46"]),
  ("bopo hang hani hira kana lisu mong tibt yiii",
    ["300a-300b"]),
  ("bopo hang hani hira kana mong phag yiii",
    ["3002"]),
  ("bopo hang hani hira kana mong tibt yiii",
    ["3008-3009"]),
  ("bopo hang hani hira kana mong yiii",
    ["3001"]),
  ("bopo hang hani hira kana yiii",
    ["300c-3011 3014-301b 30fb ff61-ff65"]),
  ("bopo hani",
    ["302a-302d"]),
  ("bopo latn",
    ["2c7 2c9-2cb 2d9"]),
  ("bugi java",
    ["a9cf"]),
  ("buhd hano tagb tglg",
    ["1735-1736"]),
  ("cakm mymr tale",
    ["1040-1049"]),
  ("cari geor glag hung lyci orkh",
    ["205a"]),
  ("cari grek hung mero",
    ["205d"]),
  ("cher copt cyrl grek latn perm sunu tale",
    ["300"]),
  ("cher cyrl grek latn osge sunu tale todr",
    ["301"]),
  ("cher cyrl latn osge",
    ["30b"]),
  ("cher cyrl latn tfng",
    ["302"]),
  ("cher dupl kana latn syrc tfng",
    ["323"]),
  ("cher dupl latn syrc",
    ["324"]),
  ("cher latn syrc",
    ["330"]),
  ("cher latn tale",
    ["30c"]),
  ("copt dupl hebr latn perm syrc tale tfng todr",
    ["307"]),
  ("copt elba glag goth kana latn",
    ["305"]),
  ("copt grek",
    ["374-375"]),
  ("copt latn",
    ["2e17"]),
  ("cpmn cprt linb",
    ["10100-10101"]),
  ("cprt lina linb",
    ["10107-10133"]),
  ("cprt linb",
    ["10102 10137-1013f"]),
  ("cyrl glag",
    ["484 487 2e43 a66f"]),
  ("cyrl grek latn perm tfng",
    ["306"]),
  ("cyrl latn",
    ["485-486"]),
  ("cyrl latn syrc",
    ["1df8"]),
  ("cyrl latn todr",
    ["311"]),
  ("cyrl perm",
    ["483"]),
  ("deva",
    ["1cd1 1cd4 1cdb 1cde-1cdf 1ce3-1ce8 1cec 1cee-1cf1"]),
  ("deva dogr gujr guru khoj knda kthi mahj mlym modi nand shrd sind takr tirh tutg",
    ["a830-a832"]),
  ("deva dogr gujr guru khoj knda kthi mahj modi nand shrd sind takr tirh tutg",
    ["a833-a835"]),
  ("deva dogr gujr guru khoj kthi mahj modi shrd sind takr tirh",
    ["a838"]),
  ("deva dogr gujr guru khoj kthi mahj modi sind takr tirh",
    ["a836-a837 a839"]),
  ("deva dogr kthi mahj",
    ["966-96f"]),
  ("deva gran",
    ["1cf3 1cf8-1cf9"]),
  ("deva gran knda",
    ["1cd3"]),
  ("deva gran knda tutg",
    ["1cf4"]),
  ("deva gran latn",
    ["20f0"]),
  ("deva knda mlym orya taml telu",
    ["1cda"]),
  ("deva nand newa",
    ["1ce9"]),
  ("deva newa",
    ["1ceb"]),
  ("deva newa shrd",
    ["1cd7"]),
  ("deva newa tirh",
    ["1ce2"]),
  ("deva shrd",
    ["1cd9 1cdc-1cdd 1ce0"]),
  ("deva taml",
    ["a8f3"]),
  ("dupl",
    ["2e3c 1bca0-1bca3"]),
  ("dupl latn syrc",
    ["30a"]),
  ("ethi latn",
    ["30e"]),
  ("geor glag latn",
    ["10fb"]),
  ("glag latn sunu syrc thai",
    ["303"]),
  ("gran taml",
    ["be6-bf3 11301 11303 1133b-1133c 11fd0-11fd1 11fd3"]),
  ("grek",
    ["342 345 1dc0-1dc1"]),
  ("grek latn perm todr",
    ["313"]),
  ("gujr khoj",
    ["ae6-aef"]),
  ("guru mult",
    ["a66-a6f"]),
  ("hani",
    ["3006 303e-303f 3190-319f 31c0-31e5 3220-3247 3280-32b0 32c0-32cb 32ff 3358-3370 337b-337f 33e0-33fe 1d360-1d371",
     "1f250-1f251"]),
  ("hani hira kana",
    ["303c-303d"]),
  ("hani latn",
    ["a700-a707"]),
  ("hani tang",
    ["2ff0-2fff 31ef"]),
  ("hira kana",
    ["3031-3035 3099-309c 30a0 30fc ff70 ff9e-ff9f"]),
  ("kali latn mymr",
    ["a92e"]),
  ("knda nand tutg",
    ["ce6-cef"]),
  ("latn",
    ["363-36f"]),
  ("latn lisu",
    ["2cd"]),
  ("latn mong phag",
    ["202f"]),
  ("latn osge",
    ["358"]),
  ("latn sunu",
    ["30d 310"]),
  ("latn sunu syrc",
    ["32d"]),
  ("latn syrc",
    ["325 32e"]),
  ("latn tfng",
    ["309"]),
  ("latn thai",
    ["2d7"]),
  ("mani ougr",
    ["10af2"]),
  ("mong phag",
    ["1802-1803 1805"]),
  ("nand",
    ["1cfa"]),
  ("runr",
    ["16eb-16ed"]),
  ("syrc",
    ["1dfa"])
]

end Highlight.Unicode
