import CommandRelay.Text.RangeTable

/-!
# Writing direction and joining

Two properties of characters that decide which of them may stand together in a domain label: the
bidirectional class, and how letters of cursive scripts join.
-/

namespace CommandRelay.Url

open Text

/-- The bidirectional classes that the rules for domain labels tell apart. -/
inductive BidiClass where
  | left
  | right
  | arabicLetter
  | arabicNumber
  | europeanNumber
  | europeanSeparator
  | commonSeparator
  | europeanTerminator
  | otherNeutral
  | boundaryNeutral
  | nonspacingMark
  deriving DecidableEq, Repr, Inhabited

/-- Reads the letter after the bounds of a range. -/
def BidiClass.ofChars : List Char → BidiClass
  | '=' :: 'R' :: _ => right
  | '=' :: 'A' :: _ => arabicLetter
  | '=' :: 'N' :: _ => arabicNumber
  | '=' :: 'E' :: _ => europeanNumber
  | '=' :: 'S' :: _ => europeanSeparator
  | '=' :: 'C' :: _ => commonSeparator
  | '=' :: 'T' :: _ => europeanTerminator
  | '=' :: 'O' :: _ => otherNeutral
  | '=' :: 'B' :: _ => boundaryNeutral
  | '=' :: 'M' :: _ => nonspacingMark
  | _ => left

/-- Bidirectional classes other than left. -/
def bidiClasses : RangeMap BidiClass := .ofText BidiClass.ofChars
  "0-8=B e-1b=B 21-22=O 23-25=T 26-2a=O 2b=S 2c=C 2d=S 2e-2f=C 30-39=E 3a=C 3b-40=O 5b-60=O
   7b-7e=O 7f-84=B 86-9f=B a0=C a1=O a2-a5=T a6-a9=O ab-ac=O ad=B ae-af=O b0-b1=T b2-b3=E b4=O
   b6-b8=O b9=E bb-bf=O d7=O f7=O 2b9-2ba=O 2c2-2cf=O 2d2-2df=O 2e5-2ed=O 2ef-2ff=O 300-36f=M
   374-375=O 37e=O 384-385=O 387=O 3f6=O 483-489=M 58a=O 58d-58e=O 58f=T 590=R 591-5bd=M 5be=R
   5bf=M 5c0=R 5c1-5c2=M 5c3=R 5c4-5c5=M 5c6=R 5c7=M 5c8-5ff=R 600-605=N 606-607=O 608=A
   609-60a=T 60b=A 60c=C 60d=A 60e-60f=O 610-61a=M 61b-64a=A 64b-65f=M 660-669=N 66a=T
   66b-66c=N 66d-66f=A 670=M 671-6d5=A 6d6-6dc=M 6dd=N 6de=O 6df-6e4=M 6e5-6e6=A 6e7-6e8=M
   6e9=O 6ea-6ed=M 6ee-6ef=A 6f0-6f9=E 6fa-710=A 711=M 712-72f=A 730-74a=M 74b-7a5=A 7a6-7b0=M
   7b1-7bf=A 7c0-7ea=R 7eb-7f3=M 7f4-7f5=R 7f6-7f9=O 7fa-7fc=R 7fd=M 7fe-815=R 816-819=M 81a=R
   81b-823=M 824=R 825-827=M 828=R 829-82d=M 82e-858=R 859-85b=M 85c-85f=R 860-88f=A 890-891=N
   892-897=A 898-89f=M 8a0-8c9=A 8ca-8e1=M 8e2=N 8e3-902=M 93a=M 93c=M 941-948=M 94d=M
   951-957=M 962-963=M 981=M 9bc=M 9c1-9c4=M 9cd=M 9e2-9e3=M 9f2-9f3=T 9fb=T 9fe=M a01-a02=M
   a3c=M a41-a42=M a47-a48=M a4b-a4d=M a51=M a70-a71=M a75=M a81-a82=M abc=M ac1-ac5=M
   ac7-ac8=M acd=M ae2-ae3=M af1=T afa-aff=M b01=M b3c=M b3f=M b41-b44=M b4d=M b55-b56=M
   b62-b63=M b82=M bc0=M bcd=M bf3-bf8=O bf9=T bfa=O c00=M c04=M c3c=M c3e-c40=M c46-c48=M
   c4a-c4d=M c55-c56=M c62-c63=M c78-c7e=O c81=M cbc=M ccc-ccd=M ce2-ce3=M d00-d01=M d3b-d3c=M
   d41-d44=M d4d=M d62-d63=M d81=M dca=M dd2-dd4=M dd6=M e31=M e34-e3a=M e3f=T e47-e4e=M eb1=M
   eb4-ebc=M ec8-ece=M f18-f19=M f35=M f37=M f39=M f3a-f3d=O f71-f7e=M f80-f84=M f86-f87=M
   f8d-f97=M f99-fbc=M fc6=M 102d-1030=M 1032-1037=M 1039-103a=M 103d-103e=M 1058-1059=M
   105e-1060=M 1071-1074=M 1082=M 1085-1086=M 108d=M 109d=M 135d-135f=M 1390-1399=O 1400=O
   169b-169c=O 1712-1714=M 1732-1733=M 1752-1753=M 1772-1773=M 17b4-17b5=M 17b7-17bd=M 17c6=M
   17c9-17d3=M 17db=T 17dd=M 17f0-17f9=O 1800-180a=O 180b-180d=M 180e=B 180f=M 1885-1886=M
   18a9=M 1920-1922=M 1927-1928=M 1932=M 1939-193b=M 1940=O 1944-1945=O 19de-19ff=O 1a17-1a18=M
   1a1b=M 1a56=M 1a58-1a5e=M 1a60=M 1a62=M 1a65-1a6c=M 1a73-1a7c=M 1a7f=M 1ab0-1ace=M
   1b00-1b03=M 1b34=M 1b36-1b3a=M 1b3c=M 1b42=M 1b6b-1b73=M 1b80-1b81=M 1ba2-1ba5=M 1ba8-1ba9=M
   1bab-1bad=M 1be6=M 1be8-1be9=M 1bed=M 1bef-1bf1=M 1c2c-1c33=M 1c36-1c37=M 1cd0-1cd2=M
   1cd4-1ce0=M 1ce2-1ce8=M 1ced=M 1cf4=M 1cf8-1cf9=M 1dc0-1dff=M 1fbd=O 1fbf-1fc1=O 1fcd-1fcf=O
   1fdd-1fdf=O 1fed-1fef=O 1ffd-1ffe=O 200b-200d=B 200f=R 2010-2027=O 202f=C 2030-2034=T
   2035-2043=O 2044=C 2045-205e=O 2060-2065=B 206a-206f=B 2070=E 2074-2079=E 207a-207b=S
   207c-207e=O 2080-2089=E 208a-208b=S 208c-208e=O 20a0-20cf=T 20d0-20f0=M 2100-2101=O
   2103-2106=O 2108-2109=O 2114=O 2116-2118=O 211e-2123=O 2125=O 2127=O 2129=O 212e=T
   213a-213b=O 2140-2144=O 214a-214d=O 2150-215f=O 2189-218b=O 2190-2211=O 2212=S 2213=T
   2214-2335=O 237b-2394=O 2396-2426=O 2440-244a=O 2460-2487=O 2488-249b=E 24ea-26ab=O
   26ad-27ff=O 2900-2b73=O 2b76-2b95=O 2b97-2bff=O 2ce5-2cea=O 2cef-2cf1=M 2cf9-2cff=O 2d7f=M
   2de0-2dff=M 2e00-2e5d=O 2e80-2e99=O 2e9b-2ef3=O 2f00-2fd5=O 2ff0-2ffb=O 3001-3004=O
   3008-3020=O 302a-302d=M 3030=O 3036-3037=O 303d-303f=O 3099-309a=M 309b-309c=O 30a0=O 30fb=O
   31c0-31e3=O 321d-321e=O 3250-325f=O 327c-327e=O 32b1-32bf=O 32cc-32cf=O 3377-337a=O
   33de-33df=O 33ff=O 4dc0-4dff=O a490-a4c6=O a60d-a60f=O a66f-a672=M a673=O a674-a67d=M
   a67e-a67f=O a69e-a69f=M a6f0-a6f1=M a700-a721=O a788=O a802=M a806=M a80b=M a825-a826=M
   a828-a82b=O a82c=M a838-a839=T a874-a877=O a8c4-a8c5=M a8e0-a8f1=M a8ff=M a926-a92d=M
   a947-a951=M a980-a982=M a9b3=M a9b6-a9b9=M a9bc-a9bd=M a9e5=M aa29-aa2e=M aa31-aa32=M
   aa35-aa36=M aa43=M aa4c=M aa7c=M aab0=M aab2-aab4=M aab7-aab8=M aabe-aabf=M aac1=M
   aaec-aaed=M aaf6=M ab6a-ab6b=O abe5=M abe8=M abed=M fb1d=R fb1e=M fb1f-fb28=R fb29=S
   fb2a-fb4f=R fb50-fd3d=A fd3e-fd4f=O fd50-fdce=A fdcf=O fdd0-fdef=B fdf0-fdfc=A fdfd-fdff=O
   fe00-fe0f=M fe10-fe19=O fe20-fe2f=M fe30-fe4f=O fe50=C fe51=O fe52=C fe54=O fe55=C
   fe56-fe5e=O fe5f=T fe60-fe61=O fe62-fe63=S fe64-fe66=O fe68=O fe69-fe6a=T fe6b=O fe70-fefe=A
   feff=B ff01-ff02=O ff03-ff05=T ff06-ff0a=O ff0b=S ff0c=C ff0d=S ff0e-ff0f=C ff10-ff19=E
   ff1a=C ff1b-ff20=O ff3b-ff40=O ff5b-ff65=O ffe0-ffe1=T ffe2-ffe4=O ffe5-ffe6=T ffe8-ffee=O
   fff0-fff8=B fff9-fffd=O fffe-ffff=B 10101=O 10140-1018c=O 10190-1019c=O 101a0=O 101fd=M
   102e0=M 102e1-102fb=E 10376-1037a=M 10800-1091e=R 1091f=O 10920-10a00=R 10a01-10a03=M
   10a04=R 10a05-10a06=M 10a07-10a0b=R 10a0c-10a0f=M 10a10-10a37=R 10a38-10a3a=M 10a3b-10a3e=R
   10a3f=M 10a40-10ae4=R 10ae5-10ae6=M 10ae7-10b38=R 10b39-10b3f=O 10b40-10cff=R 10d00-10d23=A
   10d24-10d27=M 10d28-10d2f=A 10d30-10d39=N 10d3a-10d3f=A 10d40-10e5f=R 10e60-10e7e=N
   10e7f-10eaa=R 10eab-10eac=M 10ead-10ebf=R 10ec0-10efc=A 10efd-10eff=M 10f00-10f2f=R
   10f30-10f45=A 10f46-10f50=M 10f51-10f6f=A 10f70-10f81=R 10f82-10f85=M 10f86-10fff=R 11001=M
   11038-11046=M 11052-11065=O 11070=M 11073-11074=M 1107f-11081=M 110b3-110b6=M 110b9-110ba=M
   110c2=M 11100-11102=M 11127-1112b=M 1112d-11134=M 11173=M 11180-11181=M 111b6-111be=M
   111c9-111cc=M 111cf=M 1122f-11231=M 11234=M 11236-11237=M 1123e=M 11241=M 112df=M
   112e3-112ea=M 11300-11301=M 1133b-1133c=M 11340=M 11366-1136c=M 11370-11374=M 11438-1143f=M
   11442-11444=M 11446=M 1145e=M 114b3-114b8=M 114ba=M 114bf-114c0=M 114c2-114c3=M
   115b2-115b5=M 115bc-115bd=M 115bf-115c0=M 115dc-115dd=M 11633-1163a=M 1163d=M 1163f-11640=M
   11660-1166c=O 116ab=M 116ad=M 116b0-116b5=M 116b7=M 1171d-1171f=M 11722-11725=M
   11727-1172b=M 1182f-11837=M 11839-1183a=M 1193b-1193c=M 1193e=M 11943=M 119d4-119d7=M
   119da-119db=M 119e0=M 11a01-11a06=M 11a09-11a0a=M 11a33-11a38=M 11a3b-11a3e=M 11a47=M
   11a51-11a56=M 11a59-11a5b=M 11a8a-11a96=M 11a98-11a99=M 11c30-11c36=M 11c38-11c3d=M
   11c92-11ca7=M 11caa-11cb0=M 11cb2-11cb3=M 11cb5-11cb6=M 11d31-11d36=M 11d3a=M 11d3c-11d3d=M
   11d3f-11d45=M 11d47=M 11d90-11d91=M 11d95=M 11d97=M 11ef3-11ef4=M 11f00-11f01=M
   11f36-11f3a=M 11f40=M 11f42=M 11fd5-11fdc=O 11fdd-11fe0=T 11fe1-11ff1=O 13440=M
   13447-13455=M 16af0-16af4=M 16b30-16b36=M 16f4f=M 16f8f-16f92=M 16fe2=O 16fe4=M
   1bc9d-1bc9e=M 1bca0-1bca3=B 1cf00-1cf2d=M 1cf30-1cf46=M 1d167-1d169=M 1d173-1d17a=B
   1d17b-1d182=M 1d185-1d18b=M 1d1aa-1d1ad=M 1d1e9-1d1ea=O 1d200-1d241=O 1d242-1d244=M 1d245=O
   1d300-1d356=O 1d6db=O 1d715=O 1d74f=O 1d789=O 1d7c3=O 1d7ce-1d7ff=E 1da00-1da36=M
   1da3b-1da6c=M 1da75=M 1da84=M 1da9b-1da9f=M 1daa1-1daaf=M 1e000-1e006=M 1e008-1e018=M
   1e01b-1e021=M 1e023-1e024=M 1e026-1e02a=M 1e08f=M 1e130-1e136=M 1e2ae=M 1e2ec-1e2ef=M
   1e2ff=T 1e4ec-1e4ef=M 1e800-1e8cf=R 1e8d0-1e8d6=M 1e8d7-1e943=R 1e944-1e94a=M 1e94b-1ec6f=R
   1ec70-1ecbf=A 1ecc0-1ecff=R 1ed00-1ed4f=A 1ed50-1edff=R 1ee00-1eeef=A 1eef0-1eef1=O
   1eef2-1eeff=A 1ef00-1efff=R 1f000-1f02b=O 1f030-1f093=O 1f0a0-1f0ae=O 1f0b1-1f0bf=O
   1f0c1-1f0cf=O 1f0d1-1f0f5=O 1f100-1f10a=E 1f10b-1f10f=O 1f12f=O 1f16a-1f16f=O 1f1ad=O
   1f260-1f265=O 1f300-1f6d7=O 1f6dc-1f6ec=O 1f6f0-1f6fc=O 1f700-1f776=O 1f77b-1f7d9=O
   1f7e0-1f7eb=O 1f7f0=O 1f800-1f80b=O 1f810-1f847=O 1f850-1f859=O 1f860-1f887=O 1f890-1f8ad=O
   1f8b0-1f8b1=O 1f900-1fa53=O 1fa60-1fa6d=O 1fa70-1fa7c=O 1fa80-1fa88=O 1fa90-1fabd=O
   1fabf-1fac5=O 1face-1fadb=O 1fae0-1fae8=O 1faf0-1faf8=O 1fb00-1fb92=O 1fb94-1fbca=O
   1fbf0-1fbf9=E 1fffe-1ffff=B 2fffe-2ffff=B 3fffe-3ffff=B 4fffe-4ffff=B 5fffe-5ffff=B
   6fffe-6ffff=B 7fffe-7ffff=B 8fffe-8ffff=B 9fffe-9ffff=B afffe-affff=B bfffe-bffff=B
   cfffe-cffff=B dfffe-e00ff=B e0100-e01ef=M e01f0-e0fff=B efffe-effff=B ffffe-fffff=B
   10fffe-10ffff=B"

/-- How a letter joins with its neighbours. -/
inductive JoiningType where
  | leftJoining
  | rightJoining
  | dualJoining
  | transparent
  | nonJoining
  deriving DecidableEq, Repr, Inhabited

/-- Reads the letter after the bounds of a range. -/
def JoiningType.ofChars : List Char → JoiningType
  | '=' :: 'L' :: _ => leftJoining
  | '=' :: 'R' :: _ => rightJoining
  | '=' :: 'D' :: _ => dualJoining
  | '=' :: 'T' :: _ => transparent
  | _ => nonJoining

/-- Joining types other than none. -/
def joiningTypes : RangeMap JoiningType := .ofText JoiningType.ofChars
  "ad=T 300-36f=T 483-489=T 591-5bd=T 5bf=T 5c1-5c2=T 5c4-5c5=T 5c7=T 610-61a=T 61c=T 620=D
   622-625=R 626=D 627=R 628=D 629=R 62a-62e=D 62f-632=R 633-63f=D 641-647=D 648=R 649-64a=D
   64b-65f=T 66e-66f=D 670=T 671-673=R 675-677=R 678-687=D 688-699=R 69a-6bf=D 6c0=R 6c1-6c2=D
   6c3-6cb=R 6cc=D 6cd=R 6ce=D 6cf=R 6d0-6d1=D 6d2-6d3=R 6d5=R 6d6-6dc=T 6df-6e4=T 6e7-6e8=T
   6ea-6ed=T 6ee-6ef=R 6fa-6fc=D 6ff=D 70f=T 710=R 711=T 712-714=D 715-719=R 71a-71d=D 71e=R
   71f-727=D 728=R 729=D 72a=R 72b=D 72c=R 72d-72e=D 72f=R 730-74a=T 74d=R 74e-758=D 759-75b=R
   75c-76a=D 76b-76c=R 76d-770=D 771=R 772=D 773-774=R 775-777=D 778-779=R 77a-77f=D 7a6-7b0=T
   7ca-7ea=D 7eb-7f3=T 7fd=T 816-819=T 81b-823=T 825-827=T 829-82d=T 840=R 841-845=D 846-847=R
   848=D 849=R 84a-853=D 854=R 855=D 856-858=R 859-85b=T 860=D 862-865=D 867=R 868=D 869-86a=R
   870-882=R 886=D 889-88d=D 88e=R 898-89f=T 8a0-8a9=D 8aa-8ac=R 8ae=R 8af-8b0=D 8b1-8b2=R
   8b3-8b8=D 8b9=R 8ba-8c8=D 8ca-8e1=T 8e3-902=T 93a=T 93c=T 941-948=T 94d=T 951-957=T
   962-963=T 981=T 9bc=T 9c1-9c4=T 9cd=T 9e2-9e3=T 9fe=T a01-a02=T a3c=T a41-a42=T a47-a48=T
   a4b-a4d=T a51=T a70-a71=T a75=T a81-a82=T abc=T ac1-ac5=T ac7-ac8=T acd=T ae2-ae3=T
   afa-aff=T b01=T b3c=T b3f=T b41-b44=T b4d=T b55-b56=T b62-b63=T b82=T bc0=T bcd=T c00=T
   c04=T c3c=T c3e-c40=T c46-c48=T c4a-c4d=T c55-c56=T c62-c63=T c81=T cbc=T cbf=T cc6=T
   ccc-ccd=T ce2-ce3=T d00-d01=T d3b-d3c=T d41-d44=T d4d=T d62-d63=T d81=T dca=T dd2-dd4=T
   dd6=T e31=T e34-e3a=T e47-e4e=T eb1=T eb4-ebc=T ec8-ece=T f18-f19=T f35=T f37=T f39=T
   f71-f7e=T f80-f84=T f86-f87=T f8d-f97=T f99-fbc=T fc6=T 102d-1030=T 1032-1037=T 1039-103a=T
   103d-103e=T 1058-1059=T 105e-1060=T 1071-1074=T 1082=T 1085-1086=T 108d=T 109d=T 135d-135f=T
   1712-1714=T 1732-1733=T 1752-1753=T 1772-1773=T 17b4-17b5=T 17b7-17bd=T 17c6=T 17c9-17d3=T
   17dd=T 1807=D 180b-180d=T 180f=T 1820-1878=D 1885-1886=T 1887-18a8=D 18a9=T 18aa=D
   1920-1922=T 1927-1928=T 1932=T 1939-193b=T 1a17-1a18=T 1a1b=T 1a56=T 1a58-1a5e=T 1a60=T
   1a62=T 1a65-1a6c=T 1a73-1a7c=T 1a7f=T 1ab0-1ace=T 1b00-1b03=T 1b34=T 1b36-1b3a=T 1b3c=T
   1b42=T 1b6b-1b73=T 1b80-1b81=T 1ba2-1ba5=T 1ba8-1ba9=T 1bab-1bad=T 1be6=T 1be8-1be9=T 1bed=T
   1bef-1bf1=T 1c2c-1c33=T 1c36-1c37=T 1cd0-1cd2=T 1cd4-1ce0=T 1ce2-1ce8=T 1ced=T 1cf4=T
   1cf8-1cf9=T 1dc0-1dff=T 200b=T 200e-200f=T 202a-202e=T 2060-2064=T 206a-206f=T 20d0-20f0=T
   2cef-2cf1=T 2d7f=T 2de0-2dff=T 302a-302d=T 3099-309a=T a66f-a672=T a674-a67d=T a69e-a69f=T
   a6f0-a6f1=T a802=T a806=T a80b=T a825-a826=T a82c=T a840-a871=D a872=L a8c4-a8c5=T
   a8e0-a8f1=T a8ff=T a926-a92d=T a947-a951=T a980-a982=T a9b3=T a9b6-a9b9=T a9bc-a9bd=T a9e5=T
   aa29-aa2e=T aa31-aa32=T aa35-aa36=T aa43=T aa4c=T aa7c=T aab0=T aab2-aab4=T aab7-aab8=T
   aabe-aabf=T aac1=T aaec-aaed=T aaf6=T abe5=T abe8=T abed=T fb1e=T fe00-fe0f=T fe20-fe2f=T
   feff=T fff9-fffb=T 101fd=T 102e0=T 10376-1037a=T 10a01-10a03=T 10a05-10a06=T 10a0c-10a0f=T
   10a38-10a3a=T 10a3f=T 10ac0-10ac4=D 10ac5=R 10ac7=R 10ac9-10aca=R 10acd=L 10ace-10ad2=R
   10ad3-10ad6=D 10ad7=L 10ad8-10adc=D 10add=R 10ade-10ae0=D 10ae1=R 10ae4=R 10ae5-10ae6=T
   10aeb-10aee=D 10aef=R 10b80=D 10b81=R 10b82=D 10b83-10b85=R 10b86-10b88=D 10b89=R
   10b8a-10b8b=D 10b8c=R 10b8d=D 10b8e-10b8f=R 10b90=D 10b91=R 10ba9-10bac=R 10bad-10bae=D
   10d00=L 10d01-10d21=D 10d22=R 10d23=D 10d24-10d27=T 10eab-10eac=T 10efd-10eff=T
   10f30-10f32=D 10f33=R 10f34-10f44=D 10f46-10f50=T 10f51-10f53=D 10f54=R 10f70-10f73=D
   10f74-10f75=R 10f76-10f81=D 10f82-10f85=T 10fb0=D 10fb2-10fb3=D 10fb4-10fb6=R 10fb8=D
   10fb9-10fba=R 10fbb-10fbc=D 10fbd=R 10fbe-10fbf=D 10fc1=D 10fc2-10fc3=R 10fc4=D 10fc9=R
   10fca=D 10fcb=L 11001=T 11038-11046=T 11070=T 11073-11074=T 1107f-11081=T 110b3-110b6=T
   110b9-110ba=T 110c2=T 11100-11102=T 11127-1112b=T 1112d-11134=T 11173=T 11180-11181=T
   111b6-111be=T 111c9-111cc=T 111cf=T 1122f-11231=T 11234=T 11236-11237=T 1123e=T 11241=T
   112df=T 112e3-112ea=T 11300-11301=T 1133b-1133c=T 11340=T 11366-1136c=T 11370-11374=T
   11438-1143f=T 11442-11444=T 11446=T 1145e=T 114b3-114b8=T 114ba=T 114bf-114c0=T
   114c2-114c3=T 115b2-115b5=T 115bc-115bd=T 115bf-115c0=T 115dc-115dd=T 11633-1163a=T 1163d=T
   1163f-11640=T 116ab=T 116ad=T 116b0-116b5=T 116b7=T 1171d-1171f=T 11722-11725=T
   11727-1172b=T 1182f-11837=T 11839-1183a=T 1193b-1193c=T 1193e=T 11943=T 119d4-119d7=T
   119da-119db=T 119e0=T 11a01-11a0a=T 11a33-11a38=T 11a3b-11a3e=T 11a47=T 11a51-11a56=T
   11a59-11a5b=T 11a8a-11a96=T 11a98-11a99=T 11c30-11c36=T 11c38-11c3d=T 11c3f=T 11c92-11ca7=T
   11caa-11cb0=T 11cb2-11cb3=T 11cb5-11cb6=T 11d31-11d36=T 11d3a=T 11d3c-11d3d=T 11d3f-11d45=T
   11d47=T 11d90-11d91=T 11d95=T 11d97=T 11ef3-11ef4=T 11f00-11f01=T 11f36-11f3a=T 11f40=T
   11f42=T 13430-13440=T 13447-13455=T 16af0-16af4=T 16b30-16b36=T 16f4f=T 16f8f-16f92=T
   16fe4=T 1bc9d-1bc9e=T 1bca0-1bca3=T 1cf00-1cf2d=T 1cf30-1cf46=T 1d167-1d169=T 1d173-1d182=T
   1d185-1d18b=T 1d1aa-1d1ad=T 1d242-1d244=T 1da00-1da36=T 1da3b-1da6c=T 1da75=T 1da84=T
   1da9b-1da9f=T 1daa1-1daaf=T 1e000-1e006=T 1e008-1e018=T 1e01b-1e021=T 1e023-1e024=T
   1e026-1e02a=T 1e08f=T 1e130-1e136=T 1e2ae=T 1e2ec-1e2ef=T 1e4ec-1e4ef=T 1e8d0-1e8d6=T
   1e900-1e943=D 1e944-1e94b=T e0001=T e0020-e007f=T e0100-e01ef=T"

end CommandRelay.Url
