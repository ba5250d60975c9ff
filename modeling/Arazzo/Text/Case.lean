import Arazzo.Text.CodeSet

/-!
# Lower and upper case

The full case mappings of Unicode 14, in which one letter may become several. The capital sigma has two
small forms: the final one stands at the end of a word, behind a cased letter and in front of none.
-/

namespace Arazzo
namespace Text

/-- The lower case of capital letters. -/
def lowerMap : CodeMap := .ofText
    "41-5a=61 c0-d6=e0 d8-de=f8 100-12e/2=101 130=69.307 132-136/2=133 139-147/2=13a 14a-176/2=14b
     178=ff 179-17d/2=17a 181=253 182-184/2=183 186=254 187=188 189-18a=256 18b=18c 18e=1dd
     18f=259 190=25b 191=192 193=260 194=263 196=269 197=268 198=199 19c=26f 19d=272 19f=275
     1a0-1a4/2=1a1 1a6=280 1a7=1a8 1a9=283 1ac=1ad 1ae=288 1af=1b0 1b1-1b2=28a 1b3-1b5/2=1b4
     1b7=292 1b8=1b9 1bc=1bd 1c4=1c6 1c5=1c6 1c7=1c9 1c8=1c9 1ca=1cc 1cb-1db/2=1cc 1de-1ee/2=1df
     1f1=1f3 1f2-1f4/2=1f3 1f6=195 1f7=1bf 1f8-21e/2=1f9 220=19e 222-232/2=223 23a=2c65 23b=23c
     23d=19a 23e=2c66 241=242 243=180 244=289 245=28c 246-24e/2=247 370-372/2=371 376=377 37f=3f3
     386=3ac 388-38a=3ad 38c=3cc 38e-38f=3cd 391-3a1=3b1 3a3-3ab=3c3 3cf=3d7 3d8-3ee/2=3d9 3f4=3b8
     3f7=3f8 3f9=3f2 3fa=3fb 3fd-3ff=37b 400-40f=450 410-42f=430 460-480/2=461 48a-4be/2=48b
     4c0=4cf 4c1-4cd/2=4c2 4d0-52e/2=4d1 531-556=561 10a0-10c5=2d00 10c7=2d27 10cd=2d2d
     13a0-13ef=ab70 13f0-13f5=13f8 1c90-1cba=10d0 1cbd-1cbf=10fd 1e00-1e94/2=1e01 1e9e=df
     1ea0-1efe/2=1ea1 1f08-1f0f=1f00 1f18-1f1d=1f10 1f28-1f2f=1f20 1f38-1f3f=1f30 1f48-1f4d=1f40
     1f59-1f5f/2=1f51 1f68-1f6f=1f60 1f88-1f8f=1f80 1f98-1f9f=1f90 1fa8-1faf=1fa0 1fb8-1fb9=1fb0
     1fba-1fbb=1f70 1fbc=1fb3 1fc8-1fcb=1f72 1fcc=1fc3 1fd8-1fd9=1fd0 1fda-1fdb=1f76
     1fe8-1fe9=1fe0 1fea-1feb=1f7a 1fec=1fe5 1ff8-1ff9=1f78 1ffa-1ffb=1f7c 1ffc=1ff3 2126=3c9
     212a=6b 212b=e5 2132=214e 2160-216f=2170 2183=2184 24b6-24cf=24d0 2c00-2c2f=2c30 2c60=2c61
     2c62=26b 2c63=1d7d 2c64=27d 2c67-2c6b/2=2c68 2c6d=251 2c6e=271 2c6f=250 2c70=252 2c72=2c73
     2c75=2c76 2c7e-2c7f=23f 2c80-2ce2/2=2c81 2ceb-2ced/2=2cec 2cf2=2cf3 a640-a66c/2=a641
     a680-a69a/2=a681 a722-a72e/2=a723 a732-a76e/2=a733 a779-a77b/2=a77a a77d=1d79
     a77e-a786/2=a77f a78b=a78c a78d=265 a790-a792/2=a791 a796-a7a8/2=a797 a7aa=266 a7ab=25c
     a7ac=261 a7ad=26c a7ae=26a a7b0=29e a7b1=287 a7b2=29d a7b3=ab53 a7b4-a7c2/2=a7b5 a7c4=a794
     a7c5=282 a7c6=1d8e a7c7-a7c9/2=a7c8 a7d0=a7d1 a7d6-a7d8/2=a7d7 a7f5=a7f6 ff21-ff3a=ff41
     10400-10427=10428 104b0-104d3=104d8 10570-1057a=10597 1057c-1058a=105a3 1058c-10592=105b3
     10594-10595=105bb 10c80-10cb2=10cc0 118a0-118bf=118c0 16e40-16e5f=16e60 1e900-1e921=1e922"

/-- The upper case of small letters. -/
def upperMap : CodeMap := .ofText
    "61-7a=41 b5=39c df=53.53 e0-f6=c0 f8-fe=d8 ff=178 101-12f/2=100 131=49 133-137/2=132
     13a-148/2=139 149=2bc.4e 14b-177/2=14a 17a-17e/2=179 17f=53 180=243 183-185/2=182 188=187
     18c=18b 192=191 195=1f6 199=198 19a=23d 19e=220 1a1-1a5/2=1a0 1a8=1a7 1ad=1ac 1b0=1af
     1b4-1b6/2=1b3 1b9=1b8 1bd=1bc 1bf=1f7 1c5=1c4 1c6=1c4 1c8=1c7 1c9=1c7 1cb=1ca 1cc=1ca
     1ce-1dc/2=1cd 1dd=18e 1df-1ef/2=1de 1f0=4a.30c 1f2=1f1 1f3=1f1 1f5=1f4 1f9-21f/2=1f8
     223-233/2=222 23c=23b 23f-240=2c7e 242=241 247-24f/2=246 250=2c6f 251=2c6d 252=2c70 253=181
     254=186 256-257=189 259=18f 25b=190 25c=a7ab 260=193 261=a7ac 263=194 265=a78d 266=a7aa
     268=197 269=196 26a=a7ae 26b=2c62 26c=a7ad 26f=19c 271=2c6e 272=19d 275=19f 27d=2c64 280=1a6
     282=a7c5 283=1a9 287=a7b1 288=1ae 289=244 28a-28b=1b1 28c=245 292=1b7 29d=a7b2 29e=a7b0
     345=399 371-373/2=370 377=376 37b-37d=3fd 390=399.308.301 3ac=386 3ad-3af=388 3b0=3a5.308.301
     3b1-3c1=391 3c2=3a3 3c3-3cb=3a3 3cc=38c 3cd-3ce=38e 3d0=392 3d1=398 3d5=3a6 3d6=3a0 3d7=3cf
     3d9-3ef/2=3d8 3f0=39a 3f1=3a1 3f2=3f9 3f3=37f 3f5=395 3f8=3f7 3fb=3fa 430-44f=410 450-45f=400
     461-481/2=460 48b-4bf/2=48a 4c2-4ce/2=4c1 4cf=4c0 4d1-52f/2=4d0 561-586=531 587=535.552
     10d0-10fa=1c90 10fd-10ff=1cbd 13f8-13fd=13f0 1c80=412 1c81=414 1c82=41e 1c83-1c84=421
     1c85=422 1c86=42a 1c87=462 1c88=a64a 1d79=a77d 1d7d=2c63 1d8e=a7c6 1e01-1e95/2=1e00
     1e96=48.331 1e97=54.308 1e98=57.30a 1e99=59.30a 1e9a=41.2be 1e9b=1e60 1ea1-1eff/2=1ea0
     1f00-1f07=1f08 1f10-1f15=1f18 1f20-1f27=1f28 1f30-1f37=1f38 1f40-1f45=1f48 1f50=3a5.313
     1f51=1f59 1f52=3a5.313.300 1f53=1f5b 1f54=3a5.313.301 1f55=1f5d 1f56=3a5.313.342 1f57=1f5f
     1f60-1f67=1f68 1f70-1f71=1fba 1f72-1f75=1fc8 1f76-1f77=1fda 1f78-1f79=1ff8 1f7a-1f7b=1fea
     1f7c-1f7d=1ffa 1f80=1f08.399 1f81=1f09.399 1f82=1f0a.399 1f83=1f0b.399 1f84=1f0c.399
     1f85=1f0d.399 1f86=1f0e.399 1f87=1f0f.399 1f88=1f08.399 1f89=1f09.399 1f8a=1f0a.399
     1f8b=1f0b.399 1f8c=1f0c.399 1f8d=1f0d.399 1f8e=1f0e.399 1f8f=1f0f.399 1f90=1f28.399
     1f91=1f29.399 1f92=1f2a.399 1f93=1f2b.399 1f94=1f2c.399 1f95=1f2d.399 1f96=1f2e.399
     1f97=1f2f.399 1f98=1f28.399 1f99=1f29.399 1f9a=1f2a.399 1f9b=1f2b.399 1f9c=1f2c.399
     1f9d=1f2d.399 1f9e=1f2e.399 1f9f=1f2f.399 1fa0=1f68.399 1fa1=1f69.399 1fa2=1f6a.399
     1fa3=1f6b.399 1fa4=1f6c.399 1fa5=1f6d.399 1fa6=1f6e.399 1fa7=1f6f.399 1fa8=1f68.399
     1fa9=1f69.399 1faa=1f6a.399 1fab=1f6b.399 1fac=1f6c.399 1fad=1f6d.399 1fae=1f6e.399
     1faf=1f6f.399 1fb0-1fb1=1fb8 1fb2=1fba.399 1fb3=391.399 1fb4=386.399 1fb6=391.342
     1fb7=391.342.399 1fbc=391.399 1fbe=399 1fc2=1fca.399 1fc3=397.399 1fc4=389.399 1fc6=397.342
     1fc7=397.342.399 1fcc=397.399 1fd0-1fd1=1fd8 1fd2=399.308.300 1fd3=399.308.301 1fd6=399.342
     1fd7=399.308.342 1fe0-1fe1=1fe8 1fe2=3a5.308.300 1fe3=3a5.308.301 1fe4=3a1.313 1fe5=1fec
     1fe6=3a5.342 1fe7=3a5.308.342 1ff2=1ffa.399 1ff3=3a9.399 1ff4=38f.399 1ff6=3a9.342
     1ff7=3a9.342.399 1ffc=3a9.399 214e=2132 2170-217f=2160 2184=2183 24d0-24e9=24b6
     2c30-2c5f=2c00 2c61=2c60 2c65=23a 2c66=23e 2c68-2c6c/2=2c67 2c73=2c72 2c76=2c75
     2c81-2ce3/2=2c80 2cec-2cee/2=2ceb 2cf3=2cf2 2d00-2d25=10a0 2d27=10c7 2d2d=10cd
     a641-a66d/2=a640 a681-a69b/2=a680 a723-a72f/2=a722 a733-a76f/2=a732 a77a-a77c/2=a779
     a77f-a787/2=a77e a78c=a78b a791-a793/2=a790 a794=a7c4 a797-a7a9/2=a796 a7b5-a7c3/2=a7b4
     a7c8-a7ca/2=a7c7 a7d1=a7d0 a7d7-a7d9/2=a7d6 a7f6=a7f5 ab53=a7b3 ab70-abbf=13a0 fb00=46.46
     fb01=46.49 fb02=46.4c fb03=46.46.49 fb04=46.46.4c fb05=53.54 fb06=53.54 fb13=544.546
     fb14=544.535 fb15=544.53b fb16=54e.546 fb17=544.53d ff41-ff5a=ff21 10428-1044f=10400
     104d8-104fb=104b0 10597-105a1=10570 105a3-105b1=1057c 105b3-105b9=1058c 105bb-105bc=10594
     10cc0-10cf2=10c80 118c0-118df=118a0 16e60-16e7f=16e40 1e922-1e943=1e900"

/-- Letters that have a case. -/
def casedCodes : CodeSet := .ofText
    "41-5a 61-7a aa b5 ba c0-d6 d8-f6 f8-1ba 1bc-1bf 1c4-293 295-2af 370-373 376-377 37b-37d 37f
     386 388-38a 38c 38e-3a1 3a3-3f5 3f7-481 48a-52f 531-556 560-588 10a0-10c5 10c7 10cd 10d0-10fa
     10fd-10ff 13a0-13f5 13f8-13fd 1c80-1c88 1c90-1cba 1cbd-1cbf 1d00-1d2b 1d6b-1d77 1d79-1d9a
     1e00-1f15 1f18-1f1d 1f20-1f45 1f48-1f4d 1f50-1f57 1f59 1f5b 1f5d 1f5f-1f7d 1f80-1fb4
     1fb6-1fbc 1fbe 1fc2-1fc4 1fc6-1fcc 1fd0-1fd3 1fd6-1fdb 1fe0-1fec 1ff2-1ff4 1ff6-1ffc 2102
     2107 210a-2113 2115 2119-211d 2124 2126 2128 212a-212d 212f-2134 2139 213c-213f 2145-2149
     214e 2160-217f 2183-2184 24b6-24e9 2c00-2c7b 2c7e-2ce4 2ceb-2cee 2cf2-2cf3 2d00-2d25 2d27
     2d2d a640-a66d a680-a69b a722-a76f a771-a787 a78b-a78e a790-a7ca a7d0-a7d1 a7d3 a7d5-a7d9
     a7f5-a7f6 a7fa ab30-ab5a ab60-ab68 ab70-abbf fb00-fb06 fb13-fb17 ff21-ff3a ff41-ff5a
     10400-1044f 104b0-104d3 104d8-104fb 10570-1057a 1057c-1058a 1058c-10592 10594-10595
     10597-105a1 105a3-105b1 105b3-105b9 105bb-105bc 10c80-10cb2 10cc0-10cf2 118a0-118df
     16e40-16e7f 1d400-1d454 1d456-1d49c 1d49e-1d49f 1d4a2 1d4a5-1d4a6 1d4a9-1d4ac 1d4ae-1d4b9
     1d4bb 1d4bd-1d4c3 1d4c5-1d505 1d507-1d50a 1d50d-1d514 1d516-1d51c 1d51e-1d539 1d53b-1d53e
     1d540-1d544 1d546 1d54a-1d550 1d552-1d6a5 1d6a8-1d6c0 1d6c2-1d6da 1d6dc-1d6fa 1d6fc-1d714
     1d716-1d734 1d736-1d74e 1d750-1d76e 1d770-1d788 1d78a-1d7a8 1d7aa-1d7c2 1d7c4-1d7cb
     1df00-1df09 1df0b-1df1e 1e900-1e943 1f130-1f149 1f150-1f169 1f170-1f189"

/-- Marks and signs that a word passes over when the case of its letters is looked at. -/
def caselessCodes : CodeSet := .ofText
    "27 2e 3a 5e 60 a8 ad af b4 b7-b8 2b0-36f 374-375 37a 384-385 387 483-489 559 55f 591-5bd 5bf
     5c1-5c2 5c4-5c5 5c7 5f4 600-605 610-61a 61c 640 64b-65f 670 6d6-6dd 6df-6e8 6ea-6ed 70f 711
     730-74a 7a6-7b0 7eb-7f5 7fa 7fd 816-82d 859-85b 888 890-891 898-89f 8c9-902 93a 93c 941-948
     94d 951-957 962-963 971 981 9bc 9c1-9c4 9cd 9e2-9e3 9fe a01-a02 a3c a41-a42 a47-a48 a4b-a4d
     a51 a70-a71 a75 a81-a82 abc ac1-ac5 ac7-ac8 acd ae2-ae3 afa-aff b01 b3c b3f b41-b44 b4d
     b55-b56 b62-b63 b82 bc0 bcd c00 c04 c3c c3e-c40 c46-c48 c4a-c4d c55-c56 c62-c63 c81 cbc cbf
     cc6 ccc-ccd ce2-ce3 d00-d01 d3b-d3c d41-d44 d4d d62-d63 d81 dca dd2-dd4 dd6 e31 e34-e3a
     e46-e4e eb1 eb4-ebc ec6 ec8-ecd f18-f19 f35 f37 f39 f71-f7e f80-f84 f86-f87 f8d-f97 f99-fbc
     fc6 102d-1030 1032-1037 1039-103a 103d-103e 1058-1059 105e-1060 1071-1074 1082 1085-1086 108d
     109d 10fc 135d-135f 1712-1714 1732-1733 1752-1753 1772-1773 17b4-17b5 17b7-17bd 17c6
     17c9-17d3 17d7 17dd 180b-180f 1843 1885-1886 18a9 1920-1922 1927-1928 1932 1939-193b
     1a17-1a18 1a1b 1a56 1a58-1a5e 1a60 1a62 1a65-1a6c 1a73-1a7c 1a7f 1aa7 1ab0-1ace 1b00-1b03
     1b34 1b36-1b3a 1b3c 1b42 1b6b-1b73 1b80-1b81 1ba2-1ba5 1ba8-1ba9 1bab-1bad 1be6 1be8-1be9
     1bed 1bef-1bf1 1c2c-1c33 1c36-1c37 1c78-1c7d 1cd0-1cd2 1cd4-1ce0 1ce2-1ce8 1ced 1cf4
     1cf8-1cf9 1d2c-1d6a 1d78 1d9b-1dff 1fbd 1fbf-1fc1 1fcd-1fcf 1fdd-1fdf 1fed-1fef 1ffd-1ffe
     200b-200f 2018-2019 2024 2027 202a-202e 2060-2064 2066-206f 2071 207f 2090-209c 20d0-20f0
     2c7c-2c7d 2cef-2cf1 2d6f 2d7f 2de0-2dff 2e2f 3005 302a-302d 3031-3035 303b 3099-309e
     30fc-30fe a015 a4f8-a4fd a60c a66f-a672 a674-a67d a67f a69c-a69f a6f0-a6f1 a700-a721 a770
     a788-a78a a7f2-a7f4 a7f8-a7f9 a802 a806 a80b a825-a826 a82c a8c4-a8c5 a8e0-a8f1 a8ff
     a926-a92d a947-a951 a980-a982 a9b3 a9b6-a9b9 a9bc-a9bd a9cf a9e5-a9e6 aa29-aa2e aa31-aa32
     aa35-aa36 aa43 aa4c aa70 aa7c aab0 aab2-aab4 aab7-aab8 aabe-aabf aac1 aadd aaec-aaed
     aaf3-aaf4 aaf6 ab5b-ab5f ab69-ab6b abe5 abe8 abed fb1e fbb2-fbc2 fe00-fe0f fe13 fe20-fe2f
     fe52 fe55 feff ff07 ff0e ff1a ff3e ff40 ff70 ff9e-ff9f ffe3 fff9-fffb 101fd 102e0 10376-1037a
     10780-10785 10787-107b0 107b2-107ba 10a01-10a03 10a05-10a06 10a0c-10a0f 10a38-10a3a 10a3f
     10ae5-10ae6 10d24-10d27 10eab-10eac 10f46-10f50 10f82-10f85 11001 11038-11046 11070
     11073-11074 1107f-11081 110b3-110b6 110b9-110ba 110bd 110c2 110cd 11100-11102 11127-1112b
     1112d-11134 11173 11180-11181 111b6-111be 111c9-111cc 111cf 1122f-11231 11234 11236-11237
     1123e 112df 112e3-112ea 11300-11301 1133b-1133c 11340 11366-1136c 11370-11374 11438-1143f
     11442-11444 11446 1145e 114b3-114b8 114ba 114bf-114c0 114c2-114c3 115b2-115b5 115bc-115bd
     115bf-115c0 115dc-115dd 11633-1163a 1163d 1163f-11640 116ab 116ad 116b0-116b5 116b7
     1171d-1171f 11722-11725 11727-1172b 1182f-11837 11839-1183a 1193b-1193c 1193e 11943
     119d4-119d7 119da-119db 119e0 11a01-11a0a 11a33-11a38 11a3b-11a3e 11a47 11a51-11a56
     11a59-11a5b 11a8a-11a96 11a98-11a99 11c30-11c36 11c38-11c3d 11c3f 11c92-11ca7 11caa-11cb0
     11cb2-11cb3 11cb5-11cb6 11d31-11d36 11d3a 11d3c-11d3d 11d3f-11d45 11d47 11d90-11d91 11d95
     11d97 11ef3-11ef4 13430-13438 16af0-16af4 16b30-16b36 16b40-16b43 16f4f 16f8f-16f9f
     16fe0-16fe1 16fe3-16fe4 1aff0-1aff3 1aff5-1affb 1affd-1affe 1bc9d-1bc9e 1bca0-1bca3
     1cf00-1cf2d 1cf30-1cf46 1d167-1d169 1d173-1d182 1d185-1d18b 1d1aa-1d1ad 1d242-1d244
     1da00-1da36 1da3b-1da6c 1da75 1da84 1da9b-1da9f 1daa1-1daaf 1e000-1e006 1e008-1e018
     1e01b-1e021 1e023-1e024 1e026-1e02a 1e130-1e13d 1e2ae 1e2ec-1e2ef 1e8d0-1e8d6 1e944-1e94b
     1f3fb-1f3ff e0001 e0020-e007f e0100-e01ef"

/-- The characters that a map makes of one, itself if the map says nothing of it. -/
def mapped (map : CodeMap) (c : Char) : List Char :=
  match map.image? c.toNat with
  | some image => image.map Char.ofNat
  | none => [c]

/-- Whether the next character that counts is a letter with a case. -/
def casedNext : List Char → Bool
  | [] => false
  | c :: cs => if caselessCodes.contains c.toNat then casedNext cs else casedCodes.contains c.toNat

/-- The lower case of what follows in a text; `inWord` says whether the last character that counts is a
letter with a case. -/
def lowerFrom (inWord : Bool) : List Char → List Char
  | [] => []
  | c :: cs =>
    let here := if c = 'Σ' then [if inWord && !casedNext cs then 'ς' else 'σ'] else mapped lowerMap c
    let inWord := if caselessCodes.contains c.toNat then inWord else casedCodes.contains c.toNat
    here ++ lowerFrom inWord cs

def lower (cs : List Char) : List Char := lowerFrom false cs

/-- The upper case of a character; ASCII does without the map. -/
def upperOf (c : Char) : List Char :=
  if c.toNat < 128 then [c.toUpper] else mapped upperMap c

def upper (cs : List Char) : List Char := cs.flatMap upperOf

end Text
end Arazzo
