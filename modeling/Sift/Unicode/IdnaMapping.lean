import Sift.Unicode.Table

/-!
# The IDNA mapping table

How each code point is treated in domain names, by the mapping table of Unicode Technical
Standard 46 (data version 17.0.0) under nontransitional processing, where the deviation
characters (sharp s, final sigma, the zero width joiners) are kept as they are:

* `valid` code points stay;
* `ignored` code points are dropped;
* `mapped` code points are replaced, for instance capital letters by small ones and full-width
  forms by ASCII;
* `disallowed` code points make a domain name invalid.

The table text (`idnaMappingText`) has one word per rule, in order of code point; a rule covers
the code points from its own start to the next rule's start. After the start come the kind and
its data: `v`, `i` and `x` for valid, ignored and disallowed; `m` and the replacement as
hexadecimal code points parted by `.`; `s` and a signed number `d`, for code points that each
map to the code point `d` away; `a` and `d`, for code points that alternate between mapping `d`
away (the first, third, ...) and being valid (the second, fourth, ...).
-/

namespace Sift.Unicode

/-- How a code point is treated in domain names. -/
inductive IdnaStatus where
  | valid
  | ignored
  | mapped (replacement : List Char)
  | disallowed
  deriving DecidableEq, Repr, Inhabited

/-- The rule for the code points from a rule's start up to the next rule's start. -/
inductive IdnaRule where
  | valid
  | ignored
  | disallowed
  /-- Each code point maps to the same text. -/
  | replace (replacement : List Char)
  /-- Each code point maps to the code point `delta` away. -/
  | shift (delta : Int)
  /-- Code points at an even distance from the start map `delta` away; the others are valid. -/
  | alternate (delta : Int)
  deriving Repr, Inhabited

/-- A rule and the first code point it covers. -/
structure IdnaEntry where
  start : Nat
  rule : IdnaRule
  deriving Repr, Inhabited

/-- The character a code point number names, moved by `delta`. -/
def shiftedChar (n : Nat) (delta : Int) : Char := Char.ofNat ((n : Int) + delta).toNat

/-- The status the rule of an entry gives code point `n`. -/
def IdnaEntry.statusAt (e : IdnaEntry) (n : Nat) : IdnaStatus :=
  match e.rule with
  | .valid => .valid
  | .ignored => .ignored
  | .disallowed => .disallowed
  | .replace r => .mapped r
  | .shift d => .mapped [shiftedChar n d]
  | .alternate d => if (n - e.start) % 2 = 0 then .mapped [shiftedChar n d] else .valid

/-- Reads the word of one rule. -/
def IdnaEntry.ofWord (w : List Char) : Option IdnaEntry :=
  let (start, rest) := readHex w
  match rest with
  | ['v'] => some ⟨start, .valid⟩
  | ['i'] => some ⟨start, .ignored⟩
  | ['x'] => some ⟨start, .disallowed⟩
  | 'm' :: r =>
    some ⟨start, .replace ((r.splitOn '.').map fun h => Char.ofNat (readHex h).1)⟩
  | 's' :: r => some ⟨start, .shift (readSigned r)⟩
  | 'a' :: r => some ⟨start, .alternate (readSigned r)⟩
  | _ => none

/-- The rules of the mapping table, as text. -/
def idnaMappingText : String :=
  "0v 41s32 5Bv 80x A0s-128 A1v A8m20.308 A9v AAs-73 ABv ADi AEv AFm20.304 B0v B2s-128 B4m20.301
  B5s775 B6v B8m20.327 B9s-136 BAs-75 BBv BCm31.2044.34 BDm31.2044.32 BEm33.2044.34 BFv C0s32 D7v
  D8s32 DFv 100a1 12Fv 130m69.307 131v 132m69.6A 134a1 137v 139a1 13Ev 13Fm6C.B7 141a1 148v
  149m2BC.6E 14Aa1 177v 178s-121 179a1 17Ev 17Fs-268 180v 181s210 182a1 185v 186s206 187s1 188v
  189s205 18Bs1 18Cv 18Es79 18Fs202 190s203 191s1 192v 193s205 194s207 195v 196s211 197s209 198s1
  199v 19Cs211 19Ds213 19Ev 19Fs214 1A0a1 1A5v 1A6s218 1A7s1 1A8v 1A9s218 1AAv 1ACs1 1ADv 1AEs218
  1AFs1 1B0v 1B1s217 1B3a1 1B6v 1B7s219 1B8s1 1B9v 1BCs1 1BDv 1C4m64.17E 1C7m6C.6A 1CAm6E.6A 1CDa1
  1DCv 1DEa1 1EFv 1F1m64.7A 1F4s1 1F5v 1F6s-97 1F7s-56 1F8a1 21Fv 220s-130 221v 222a1 233v
  23As10795 23Bs1 23Cv 23Ds-163 23Es10792 23Fv 241s1 242v 243s-195 244s69 245s71 246a1 24Fv
  2B0s-584 2B1s-75 2B2s-584 2B3s-577 2B4s-59 2B5s-58 2B6s-53 2B7s-576 2B8s-575 2B9v 2D8m20.306
  2D9m20.307 2DAm20.30A 2DBm20.328 2DCm20.303 2DDm20.30B 2DEv 2E0s-125 2E1s-629 2E2s-623 2E3s-619
  2E4s-79 2E5v 340s-64 342v 343s-48 344m308.301 345s116 346v 34Fi 350v 370a1 373v 374s-187 375v
  376s1 377v 378x 37Am20.3B9 37Bv 37Es-835 37Fs116 380x 384m20.301 385m20.308.301 386s38 387s-720
  388s37 38Bx 38Cs64 38Dx 38Es63 390v 391s32 3A2x 3A3s32 3ACv 3CFs8 3D0s-30 3D1s-25 3D2s-13 3D3s-6
  3D4s-9 3D5s-15 3D6s-22 3D7v 3D8a1 3EFv 3F0s-54 3F1s-48 3F2s-47 3F3v 3F4s-60 3F5s-64 3F6v 3F7s1
  3F8v 3F9s-54 3FAs1 3FBv 3FDs-130 400s80 410s32 430v 460a1 481v 48Aa1 4BFv 4C0s15 4C1a1 4CEv
  4D0a1 52Fv 530x 531s48 557x 559v 587m565.582 588v 58Bx 58Dv 590x 591v 5C8x 5D0v 5EBx 5EFv 5F5x
  606v 61Cx 61Dv 675m627.674 676m648.674 677m6C7.674 678m64A.674 679v 6DDx 6DEv 70Ex 710v 74Bx
  74Dv 7B2x 7C0v 7FBx 7FDv 82Ex 830v 83Fx 840v 85Cx 85Ev 85Fx 860v 86Bx 870v 890x 897v 8E2x 8E3v
  958m915.93C 959m916.93C 95Am917.93C 95Bm91C.93C 95Cm921.93C 95Dm922.93C 95Em92B.93C 95Fm92F.93C
  960v 984x 985v 98Dx 98Fv 991x 993v 9A9x 9AAv 9B1x 9B2v 9B3x 9B6v 9BAx 9BCv 9C5x 9C7v 9C9x 9CBv
  9CFx 9D7v 9D8x 9DCm9A1.9BC 9DDm9A2.9BC 9DEx 9DFm9AF.9BC 9E0v 9E4x 9E6v 9FFx A01v A04x A05v A0Bx
  A0Fv A11x A13v A29x A2Av A31x A32v A33mA32.A3C A34x A35v A36mA38.A3C A37x A38v A3Ax A3Cv A3Dx
  A3Ev A43x A47v A49x A4Bv A4Ex A51v A52x A59mA16.A3C A5AmA17.A3C A5BmA1C.A3C A5Cv A5Dx
  A5EmA2B.A3C A5Fx A66v A77x A81v A84x A85v A8Ex A8Fv A92x A93v AA9x AAAv AB1x AB2v AB4x AB5v ABAx
  ABCv AC6x AC7v ACAx ACBv ACEx AD0v AD1x AE0v AE4x AE6v AF2x AF9v B00x B01v B04x B05v B0Dx B0Fv
  B11x B13v B29x B2Av B31x B32v B34x B35v B3Ax B3Cv B45x B47v B49x B4Bv B4Ex B55v B58x B5CmB21.B3C
  B5DmB22.B3C B5Ex B5Fv B64x B66v B78x B82v B84x B85v B8Bx B8Ev B91x B92v B96x B99v B9Bx B9Cv B9Dx
  B9Ev BA0x BA3v BA5x BA8v BABx BAEv BBAx BBEv BC3x BC6v BC9x BCAv BCEx BD0v BD1x BD7v BD8x BE6v
  BFBx C00v C0Dx C0Ev C11x C12v C29x C2Av C3Ax C3Cv C45x C46v C49x C4Av C4Ex C55v C57x C58v C5Bx
  C5Cv C5Ex C60v C64x C66v C70x C77v C8Dx C8Ev C91x C92v CA9x CAAv CB4x CB5v CBAx CBCv CC5x CC6v
  CC9x CCAv CCEx CD5v CD7x CDCv CDFx CE0v CE4x CE6v CF0x CF1v CF4x D00v D0Dx D0Ev D11x D12v D45x
  D46v D49x D4Av D50x D54v D64x D66v D80x D81v D84x D85v D97x D9Av DB2x DB3v DBCx DBDv DBEx DC0v
  DC7x DCAv DCBx DCFv DD5x DD6v DD7x DD8v DE0x DE6v DF0x DF2v DF5x E01v E33mE4D.E32 E34v E3Bx E3Fv
  E5Cx E81v E83x E84v E85x E86v E8Bx E8Cv EA4x EA5v EA6x EA7v EB3mECD.EB2 EB4v EBEx EC0v EC5x EC6v
  EC7x EC8v ECFx ED0v EDAx EDCmEAB.E99 EDDmEAB.EA1 EDEv EE0x F00v F0Cs-1 F0Dv F43mF42.FB7 F44v
  F48x F49v F4DmF4C.FB7 F4Ev F52mF51.FB7 F53v F57mF56.FB7 F58v F5CmF5B.FB7 F5Dv F69mF40.FB5 F6Av
  F6Dx F71v F73mF71.F72 F74v F75mF71.F74 F76mFB2.F80 F77mFB2.F71.F80 F78mFB3.F80 F79mFB3.F71.F80
  F7Av F81mF71.F80 F82v F93mF92.FB7 F94v F98x F99v F9DmF9C.FB7 F9Ev FA2mFA1.FB7 FA3v FA7mFA6.FB7
  FA8v FACmFAB.FB7 FADv FB9mF90.FB5 FBAv FBDx FBEv FCDx FCEv FDBx 1000v 10A0s7264 10C6x 10C7s7264
  10C8x 10CDs7264 10CEx 10D0v 10FCs-32 10FDv 115Fi 1161v 1249x 124Av 124Ex 1250v 1257x 1258v 1259x
  125Av 125Ex 1260v 1289x 128Av 128Ex 1290v 12B1x 12B2v 12B6x 12B8v 12BFx 12C0v 12C1x 12C2v 12C6x
  12C8v 12D7x 12D8v 1311x 1312v 1316x 1318v 135Bx 135Dv 137Dx 1380v 139Ax 13A0v 13F6x 13F8s-8
  13FEx 1400v 1680x 1681v 169Dx 16A0v 16F9x 1700v 1716x 171Fv 1737x 1740v 1754x 1760v 176Dx 176Ev
  1771x 1772v 1774x 1780v 17B4i 17B6v 17DEx 17E0v 17EAx 17F0v 17FAx 1800v 180Bi 1810v 181Ax 1820v
  1879x 1880v 18ABx 18B0v 18F6x 1900v 191Fx 1920v 192Cx 1930v 193Cx 1940v 1941x 1944v 196Ex 1970v
  1975x 1980v 19ACx 19B0v 19CAx 19D0v 19DBx 19DEv 1A1Cx 1A1Ev 1A5Fx 1A60v 1A7Dx 1A7Fv 1A8Ax 1A90v
  1A9Ax 1AA0v 1AAEx 1AB0v 1ADEx 1AE0v 1AECx 1B00v 1B4Dx 1B4Ev 1BF4x 1BFCv 1C38x 1C3Bv 1C4Ax 1C4Dv
  1C80s-6222 1C81s-6221 1C82s-6212 1C83s-6210 1C84m442 1C86s-6204 1C87s-6180 1C88s35267 1C89s1
  1C8Av 1C8Bx 1C90s-3008 1CBBx 1CBDs-3008 1CC0v 1CC8x 1CD0v 1CFBx 1D00v 1D2Cs-7371 1D2Ds-7239
  1D2Ea-7372 1D31s-7372 1D32s-6997 1D33s-7372 1D3Bv 1D3Cs-7373 1D3Ds-6938 1D3Es-7374 1D3Fs-7373
  1D40s-7372 1D42s-7371 1D43s-7394 1D44s-6900 1D46s-68 1D47s-7397 1D48s-7396 1D4As-6897 1D4Bs-6896
  1D4Ds-7398 1D4Ev 1D4Fs-7396 1D50s-7395 1D51s-7174 1D52s-7395 1D53s-6911 1D54s-62 1D56s-7398
  1D57s-7395 1D59s-60 1D5As-6891 1D5Bs-7397 1D5Cs-55 1D5Ds-6571 1D60s-6554 1D62s-7417 1D63s-7409
  1D64s-7407 1D66s-6580 1D68s-6567 1D69s-6563 1D6Bv 1D78s-6459 1D79v 1D9Bs-6985 1D9Cs-7481
  1D9Ds-6984 1D9Es-7342 1D9Fs-6979 1DA0s-7482 1DA1s-6978 1DA2s-6977 1DA3s-6974 1DA4s-6972 1DA7s-44
  1DA8s-6923 1DA9s-6972 1DAAs-37 1DABs-6924 1DACs-6971 1DADs-6973 1DAEs-6972 1DB2s-6970 1DB3s-6961
  1DB5s-7178 1DB6s-6957 1DB8s-156 1DB9s-6958 1DBBs-7489 1DBCs-6956 1DBFs-6663 1DC0v 1E00a1 1E95v
  1E9Am61.2BE 1E9Bs-58 1E9Cv 1E9Es-7615 1E9Fv 1EA0a1 1EFFv 1F08s-8 1F10v 1F16x 1F18s-8 1F1Ex 1F20v
  1F28s-8 1F30v 1F38s-8 1F40v 1F46x 1F48s-8 1F4Ex 1F50v 1F58x 1F59s-8 1F5Ax 1F5Bs-8 1F5Cx 1F5Ds-8
  1F5Ex 1F5Fs-8 1F60v 1F68s-8 1F70v 1F71s-7109 1F72v 1F73s-7110 1F74v 1F75s-7111 1F76v 1F77s-7112
  1F78v 1F79s-7085 1F7Av 1F7Bs-7086 1F7Cv 1F7Ds-7087 1F7Ex 1F80m1F00.3B9 1F81m1F01.3B9
  1F82m1F02.3B9 1F83m1F03.3B9 1F84m1F04.3B9 1F85m1F05.3B9 1F86m1F06.3B9 1F87m1F07.3B9
  1F88m1F00.3B9 1F89m1F01.3B9 1F8Am1F02.3B9 1F8Bm1F03.3B9 1F8Cm1F04.3B9 1F8Dm1F05.3B9
  1F8Em1F06.3B9 1F8Fm1F07.3B9 1F90m1F20.3B9 1F91m1F21.3B9 1F92m1F22.3B9 1F93m1F23.3B9
  1F94m1F24.3B9 1F95m1F25.3B9 1F96m1F26.3B9 1F97m1F27.3B9 1F98m1F20.3B9 1F99m1F21.3B9
  1F9Am1F22.3B9 1F9Bm1F23.3B9 1F9Cm1F24.3B9 1F9Dm1F25.3B9 1F9Em1F26.3B9 1F9Fm1F27.3B9
  1FA0m1F60.3B9 1FA1m1F61.3B9 1FA2m1F62.3B9 1FA3m1F63.3B9 1FA4m1F64.3B9 1FA5m1F65.3B9
  1FA6m1F66.3B9 1FA7m1F67.3B9 1FA8m1F60.3B9 1FA9m1F61.3B9 1FAAm1F62.3B9 1FABm1F63.3B9
  1FACm1F64.3B9 1FADm1F65.3B9 1FAEm1F66.3B9 1FAFm1F67.3B9 1FB0v 1FB2m1F70.3B9 1FB3m3B1.3B9
  1FB4m3AC.3B9 1FB5x 1FB6v 1FB7m1FB6.3B9 1FB8s-8 1FBAs-74 1FBBs-7183 1FBCm3B1.3B9 1FBDm20.313
  1FBEs-7173 1FBFm20.313 1FC0m20.342 1FC1m20.308.342 1FC2m1F74.3B9 1FC3m3B7.3B9 1FC4m3AE.3B9 1FC5x
  1FC6v 1FC7m1FC6.3B9 1FC8s-86 1FC9s-7196 1FCAs-86 1FCBs-7197 1FCCm3B7.3B9 1FCDm20.313.300
  1FCEm20.313.301 1FCFm20.313.342 1FD0v 1FD3s-7235 1FD4x 1FD6v 1FD8s-8 1FDAs-100 1FDBs-7212 1FDCx
  1FDDm20.314.300 1FDEm20.314.301 1FDFm20.314.342 1FE0v 1FE3s-7219 1FE4v 1FE8s-8 1FEAs-112
  1FEBs-7198 1FECs-7 1FEDm20.308.300 1FEEm20.308.301 1FEFs-8079 1FF0x 1FF2m1F7C.3B9 1FF3m3C9.3B9
  1FF4m3CE.3B9 1FF5x 1FF6v 1FF7m1FF6.3B9 1FF8s-128 1FF9s-7213 1FFAs-126 1FFBs-7213 1FFCm3C9.3B9
  1FFDm20.301 1FFEm20.314 1FFFx 2000m20 200Bi 200Cv 200Ex 2010v 2011s-1 2012v 2017m20.333 2018v
  2024x 2027v 2028x 202Fs-8207 2030v 2033m2032.2032 2034m2032.2032.2032 2035v 2036m2035.2035
  2037m2035.2035.2035 2038v 203Cm21.21 203Dv 203Em20.305 203Fv 2047m3F.3F 2048m3F.21 2049m21.3F
  204Av 2057m2032.2032.2032.2032 2058v 205Fs-8255 2060i 2065x 206Ai 2070s-8256 2071s-8200 2072x
  2074s-8256 207As-8271 207Bs407 207Cs-8255 207Ds-8277 207Fs-8209 2080s-8272 208As-8287 208Bs391
  208Cs-8271 208Ds-8293 208Fx 2090s-8239 2091s-8236 2092s-8227 2093s-8219 2094s-7739 2095s-8237
  2096s-8235 209As-8234 209Bs-8232 209Dx 20A0v 20A8m72.73 20A9v 20C2x 20D0v 20F1x 2100m61.2F.63
  2101m61.2F.73 2102s-8351 2103mB0.63 2104v 2105m63.2F.6F 2106m63.2F.75 2107s-7852 2108v
  2109mB0.66 210As-8355 210Bm68 210Fs-8168 2110m69 2112m6C 2114v 2115s-8359 2116m6E.6F 2117v
  2119s-8361 211Bm72 211Ev 2120m73.6D 2121m74.65.6C 2122m74.6D 2123v 2124s-8362 2125v 2126s-7517
  2127v 2128s-8366 2129v 212As-8383 212Bs-8262 212Cs-8394 212Ev 212Fm65 2131s-8395 2132s28
  2133s-8390 2134s-8389 2135s-7013 2139s-8400 213Av 213Bm66.61.78 213Cs-7548 213Dm3B3 213Fs-7551
  2140s209 2141v 2145m64 2147s-8418 2148s-8415 214Av 2150m31.2044.37 2151m31.2044.39
  2152m31.2044.31.30 2153m31.2044.33 2154m32.2044.33 2155m31.2044.35 2156m32.2044.35
  2157m33.2044.35 2158m34.2044.35 2159m31.2044.36 215Am35.2044.36 215Bm31.2044.38 215Cm33.2044.38
  215Dm35.2044.38 215Em37.2044.38 215Fm31.2044 2160s-8439 2161m69.69 2162m69.69.69 2163m69.76
  2164s-8430 2165m76.69 2166m76.69.69 2167m76.69.69.69 2168m69.78 2169s-8433 216Am78.69
  216Bm78.69.69 216Cs-8448 216Ds-8458 216Fs-8450 2170s-8455 2171m69.69 2172m69.69.69 2173m69.76
  2174s-8446 2175m76.69 2176m76.69.69 2177m76.69.69.69 2178m69.78 2179s-8449 217Am78.69
  217Bm78.69.69 217Cs-8464 217Ds-8474 217Fs-8466 2180v 2183s1 2184v 2189m30.2044.33 218Av 218Cx
  2190v 222Cm222B.222B 222Dm222B.222B.222B 222Ev 222Fm222E.222E 2230m222E.222E.222E 2231v
  2329s3295 232Bv 242Ax 2440v 244Bx 2460s-9263 2469m31.30 246Am31.31 246Bm31.32 246Cm31.33
  246Dm31.34 246Em31.35 246Fm31.36 2470m31.37 2471m31.38 2472m31.39 2473m32.30 2474m28.31.29
  2475m28.32.29 2476m28.33.29 2477m28.34.29 2478m28.35.29 2479m28.36.29 247Am28.37.29
  247Bm28.38.29 247Cm28.39.29 247Dm28.31.30.29 247Em28.31.31.29 247Fm28.31.32.29 2480m28.31.33.29
  2481m28.31.34.29 2482m28.31.35.29 2483m28.31.36.29 2484m28.31.37.29 2485m28.31.38.29
  2486m28.31.39.29 2487m28.32.30.29 2488x 249Cm28.61.29 249Dm28.62.29 249Em28.63.29 249Fm28.64.29
  24A0m28.65.29 24A1m28.66.29 24A2m28.67.29 24A3m28.68.29 24A4m28.69.29 24A5m28.6A.29
  24A6m28.6B.29 24A7m28.6C.29 24A8m28.6D.29 24A9m28.6E.29 24AAm28.6F.29 24ABm28.70.29
  24ACm28.71.29 24ADm28.72.29 24AEm28.73.29 24AFm28.74.29 24B0m28.75.29 24B1m28.76.29
  24B2m28.77.29 24B3m28.78.29 24B4m28.79.29 24B5m28.7A.29 24B6s-9301 24D0s-9327 24EAs-9402 24EBv
  2A0Cm222B.222B.222B.222B 2A0Dv 2A74m3A.3A.3D 2A75m3D.3D 2A76m3D.3D.3D 2A77v 2ADCm2ADD.338 2ADDv
  2B74x 2B76v 2C00s48 2C30v 2C60s1 2C61v 2C62s-10743 2C63s-3814 2C64s-10727 2C65v 2C67a1 2C6Cv
  2C6Ds-10780 2C6Es-10749 2C6Fs-10783 2C70s-10782 2C71v 2C72s1 2C73v 2C75s1 2C76v 2C7Cs-11282
  2C7Ds-11271 2C7Es-10815 2C80a1 2CE3v 2CEBa1 2CEEv 2CF2s1 2CF3v 2CF4x 2CF9v 2D26x 2D27v 2D28x
  2D2Dv 2D2Ex 2D30v 2D68x 2D6Fs-14 2D70v 2D71x 2D7Fv 2D97x 2DA0v 2DA7x 2DA8v 2DAFx 2DB0v 2DB7x
  2DB8v 2DBFx 2DC0v 2DC7x 2DC8v 2DCFx 2DD0v 2DD7x 2DD8v 2DDFx 2DE0v 2E5Ex 2E80v 2E9Ax 2E9Bv
  2E9Fs15662 2EA0v 2EF3s28844 2EF4x 2F00s7936 2F01s7975 2F02s7988 2F03s7996 2F04s8021 2F05s8064
  2F06s8070 2F07s8089 2F08s8114 2F09s8758 2F0As8795 2F0Bs8800 2F0Cs8822 2F0Ds8841 2F0Es8861
  2F0Fs8913 2F10s8933 2F11s8943 2F12s9097 2F13s9190 2F14s9217 2F15s9221 2F16s9250 2F17s9258
  2F18s9284 2F19s9296 2F1As9320 2F1Bs9371 2F1Cs9388 2F1Ds9414 2F1Es10169 2F1Fs10240 2F20s10699
  2F21s10721 2F22s10728 2F23s10738 2F24s10755 2F25s10830 2F26s11306 2F27s11353 2F28s11472
  2F29s11494 2F2As11512 2F2Bs11533 2F2Cs11586 2F2Ds11588 2F2Es11949 2F2Fs11958 2F30s11969
  2F31s11981 2F32s12096 2F33s12103 2F34s12107 2F35s12223 2F36s12232 2F37s12244 2F38s12251
  2F39s12311 2F3As12327 2F3Bs12344 2F3Cs12423 2F3Ds13003 2F3Es13048 2F3Fs13068 2F40s13807
  2F41s13811 2F42s13893 2F43s13908 2F44s13920 2F45s13940 2F46s13978 2F47s13982 2F48s14248
  2F49s14271 2F4As14302 2F4Bs15317 2F4Cs15382 2F4Ds15404 2F4Es15461 2F4Fs15484 2F50s15492
  2F51s15498 2F52s15549 2F53s15553 2F54s15584 2F55s16662 2F56s17108 2F57s17119 2F58s17123
  2F59s17126 2F5As17133 2F5Bs17150 2F5Cs17151 2F5Ds17231 2F5Es17446 2F5Fs17450 2F60s17788
  2F61s17797 2F62s17846 2F63s17852 2F64s17860 2F65s17867 2F66s17957 2F67s17963 2F68s18190
  2F69s18196 2F6As18244 2F6Bs18260 2F6Cs18306 2F6Ds18542 2F6Es18548 2F6Fs18564 2F70s18890
  2F71s19015 2F72s19020 2F73s19201 2F74s19287 2F75s19332 2F76s19709 2F77s19841 2F78s20414
  2F79s20440 2F7As20496 2F7Bs20546 2F7Cs20613 2F7Ds20623 2F7Es20628 2F7Fs20660 2F80s20735
  2F81s20744 2F82s21089 2F83s21095 2F84s21103 2F85s21111 2F86s21126 2F87s21140 2F88s21143
  2F89s21221 2F8As21224 2F8Bs21229 2F8Cs22209 2F8Ds22238 2F8Es22706 2F8Fs22717 2F90s22739
  2F91s23021 2F92s23033 2F93s23103 2F94s23148 2F95s23714 2F96s23728 2F97s23742 2F98s23776
  2F99s23812 2F9As24010 2F9Bs24021 2F9Cs24087 2F9Ds24334 2F9Es24364 2F9Fs24572 2FA0s24592
  2FA1s24596 2FA2s24815 2FA3s24998 2FA4s25122 2FA5s25127 2FA6s25131 2FA7s26064 2FA8s26072
  2FA9s26227 2FAAs26380 2FABs26382 2FACs26428 2FADs26532 2FAEs26544 2FAFs26547 2FB0s26553
  2FB1s26650 2FB2s26683 2FB3s26688 2FB4s26701 2FB5s26867 2FB6s26917 2FB7s26920 2FB8s27102
  2FB9s27104 2FBAs27122 2FBBs27373 2FBCs27420 2FBDs27426 2FBEs27495 2FBFs27504 2FC0s27506
  2FC1s27515 2FC2s27544 2FC3s27938 2FC4s28337 2FC5s28346 2FC6s28383 2FC7s28404 2FC8s28411
  2FC9s28420 2FCAs28423 2FCBs28462 2FCCs28465 2FCDs28481 2FCEs28485 2FCFs28497 2FD0s28523
  2FD1s28537 2FD2s28544 2FD3s28602 2FD4s28616 2FD5s28619 2FD6x 3000s-12256 3001v 3002s-12244 3003v
  3036s-36 3037v 3038s8969 3039s8971 303Bv 3040x 3041v 3097x 3099v 309Bm20.3099 309Cm20.309A 309Dv
  309Fm3088.308A 30A0v 30FFm30B3.30C8 3100x 3105v 3130x 3131s-8241 3133s-8073 3134s-8242
  3135s-8073 3137s-8244 313As-8074 3140s-8230 3141s-8251 3144s-8227 3145s-8252 314Fs-8174 3164i
  3165s-8273 3167s-8096 3169s-8093 316As-8092 316Bs-8088 316Cs-8085 316Ds-8084 316Es-8274
  316Fs-8082 3170s-8081 3171s-8276 3173s-8275 3174s-8274 3176s-8271 3177s-8270 3178s-8269
  317Ds-8267 317Es-8264 317Fs-8255 3180s-8249 3181s-8245 3182s-8081 3184s-8237 3187s-8195
  3189s-8193 318As-8185 318Cs-8184 318Ds-8175 318Es-8173 318Fx 3190v 3192s7278 3193s7417 3194s7285
  3195s9542 3196s7284 3197s7318 3198s7283 3199s17305 319As7359 319Bs7294 319Cs7269 319Ds10124
  319Es9618 319Fs7451 31A0v 31E6x 31F0v 3200m28.1100.29 3201m28.1102.29 3202m28.1103.29
  3203m28.1105.29 3204m28.1106.29 3205m28.1107.29 3206m28.1109.29 3207m28.110B.29 3208m28.110C.29
  3209m28.110E.29 320Am28.110F.29 320Bm28.1110.29 320Cm28.1111.29 320Dm28.1112.29 320Em28.AC00.29
  320Fm28.B098.29 3210m28.B2E4.29 3211m28.B77C.29 3212m28.B9C8.29 3213m28.BC14.29 3214m28.C0AC.29
  3215m28.C544.29 3216m28.C790.29 3217m28.CC28.29 3218m28.CE74.29 3219m28.D0C0.29 321Am28.D30C.29
  321Bm28.D558.29 321Cm28.C8FC.29 321Dm28.C624.C804.29 321Em28.C624.D6C4.29 321Fx 3220m28.4E00.29
  3221m28.4E8C.29 3222m28.4E09.29 3223m28.56DB.29 3224m28.4E94.29 3225m28.516D.29 3226m28.4E03.29
  3227m28.516B.29 3228m28.4E5D.29 3229m28.5341.29 322Am28.6708.29 322Bm28.706B.29 322Cm28.6C34.29
  322Dm28.6728.29 322Em28.91D1.29 322Fm28.571F.29 3230m28.65E5.29 3231m28.682A.29 3232m28.6709.29
  3233m28.793E.29 3234m28.540D.29 3235m28.7279.29 3236m28.8CA1.29 3237m28.795D.29 3238m28.52B4.29
  3239m28.4EE3.29 323Am28.547C.29 323Bm28.5B66.29 323Cm28.76E3.29 323Dm28.4F01.29 323Em28.8CC7.29
  323Fm28.5354.29 3240m28.796D.29 3241m28.4F11.29 3242m28.81EA.29 3243m28.81F3.29 3244s8971
  3245s11319 3246s13121 3247s18760 3248v 3250m70.74.65 3251m32.31 3252m32.32 3253m32.33 3254m32.34
  3255m32.35 3256m32.36 3257m32.37 3258m32.38 3259m32.39 325Am33.30 325Bm33.31 325Cm33.32
  325Dm33.33 325Em33.34 325Fm33.35 3260s-8544 3261s-8543 3263s-8542 3266s-8541 3267s-8540
  3269s-8539 326Es31122 326Fs32297 3270s32884 3271s34059 3272s34646 3273s35233 3274s36408
  3275s37583 3276s38170 3277s39345 3278s39932 3279s40519 327As41106 327Bs41693 327CmCC38.ACE0
  327DmC8FC.C758 327Es37938 327Fv 3280s7040 3281s7179 3282s7047 3283s9304 3284s7184 3285s7912
  3286s7037 3287s7908 3288s7125 3289s8376 328As13438 328Bs15840 328Cs14760 328Ds13467 328Es24387
  328Fs9360 3290s13141 3291s13721 3292s13431 3293s18091 3294s8569 3295s16356 3296s23051 3297s18118
  3298s8220 3299s18239 329As17053 329Bs9944 329Cs24013 329Ds7821 329Es8402 329Fs14921 32A0s25957
  32A1s7280 32A2s7927 32A3s14528 32A4s7014 32A5s7048 32A6s7013 32A7s11071 32A8s8523 32A9s8338
  32AAs10477 32ABs10427 32ACs17463 32ADs7252 32AEs23065 32AFs8357 32B0s9836 32B1m33.36 32B2m33.37
  32B3m33.38 32B4m33.39 32B5m34.30 32B6m34.31 32B7m34.32 32B8m34.33 32B9m34.34 32BAm34.35
  32BBm34.36 32BCm34.37 32BDm34.38 32BEm34.39 32BFm35.30 32C0m31.6708 32C1m32.6708 32C2m33.6708
  32C3m34.6708 32C4m35.6708 32C5m36.6708 32C6m37.6708 32C7m38.6708 32C8m39.6708 32C9m31.30.6708
  32CAm31.31.6708 32CBm31.32.6708 32CCm68.67 32CDm65.72.67 32CEm65.76 32CFm6C.74.64 32D0s-558
  32D1s-557 32D2s-556 32D3s-555 32D4s-554 32D6s-553 32D7s-552 32D8s-551 32D9s-550 32DAs-549
  32DBs-548 32DCs-547 32DDs-546 32DEs-545 32DFs-544 32E0s-543 32E1s-541 32E2s-540 32E3s-539
  32E4s-538 32EAs-536 32EBs-534 32ECs-532 32EDs-530 32EEs-528 32F3s-527 32F4s-526 32F5s-525
  32FBs-524 32FFm4EE4.548C 3300m30A2.30D1.30FC.30C8 3301m30A2.30EB.30D5.30A1
  3302m30A2.30F3.30DA.30A2 3303m30A2.30FC.30EB 3304m30A4.30CB.30F3.30B0 3305m30A4.30F3.30C1
  3306m30A6.30A9.30F3 3307m30A8.30B9.30AF.30FC.30C9 3308m30A8.30FC.30AB.30FC 3309m30AA.30F3.30B9
  330Am30AA.30FC.30E0 330Bm30AB.30A4.30EA 330Cm30AB.30E9.30C3.30C8 330Dm30AB.30ED.30EA.30FC
  330Em30AC.30ED.30F3 330Fm30AC.30F3.30DE 3310m30AE.30AC 3311m30AE.30CB.30FC
  3312m30AD.30E5.30EA.30FC 3313m30AE.30EB.30C0.30FC 3314m30AD.30ED 3315m30AD.30ED.30B0.30E9.30E0
  3316m30AD.30ED.30E1.30FC.30C8.30EB 3317m30AD.30ED.30EF.30C3.30C8 3318m30B0.30E9.30E0
  3319m30B0.30E9.30E0.30C8.30F3 331Am30AF.30EB.30BC.30A4.30ED 331Bm30AF.30ED.30FC.30CD
  331Cm30B1.30FC.30B9 331Dm30B3.30EB.30CA 331Em30B3.30FC.30DD 331Fm30B5.30A4.30AF.30EB
  3320m30B5.30F3.30C1.30FC.30E0 3321m30B7.30EA.30F3.30B0 3322m30BB.30F3.30C1 3323m30BB.30F3.30C8
  3324m30C0.30FC.30B9 3325m30C7.30B7 3326m30C9.30EB 3327m30C8.30F3 3328m30CA.30CE
  3329m30CE.30C3.30C8 332Am30CF.30A4.30C4 332Bm30D1.30FC.30BB.30F3.30C8 332Cm30D1.30FC.30C4
  332Dm30D0.30FC.30EC.30EB 332Em30D4.30A2.30B9.30C8.30EB 332Fm30D4.30AF.30EB 3330m30D4.30B3
  3331m30D3.30EB 3332m30D5.30A1.30E9.30C3.30C9 3333m30D5.30A3.30FC.30C8
  3334m30D6.30C3.30B7.30A7.30EB 3335m30D5.30E9.30F3 3336m30D8.30AF.30BF.30FC.30EB 3337m30DA.30BD
  3338m30DA.30CB.30D2 3339m30D8.30EB.30C4 333Am30DA.30F3.30B9 333Bm30DA.30FC.30B8
  333Cm30D9.30FC.30BF 333Dm30DD.30A4.30F3.30C8 333Em30DC.30EB.30C8 333Fm30DB.30F3
  3340m30DD.30F3.30C9 3341m30DB.30FC.30EB 3342m30DB.30FC.30F3 3343m30DE.30A4.30AF.30ED
  3344m30DE.30A4.30EB 3345m30DE.30C3.30CF 3346m30DE.30EB.30AF 3347m30DE.30F3.30B7.30E7.30F3
  3348m30DF.30AF.30ED.30F3 3349m30DF.30EA 334Am30DF.30EA.30D0.30FC.30EB 334Bm30E1.30AC
  334Cm30E1.30AC.30C8.30F3 334Dm30E1.30FC.30C8.30EB 334Em30E4.30FC.30C9 334Fm30E4.30FC.30EB
  3350m30E6.30A2.30F3 3351m30EA.30C3.30C8.30EB 3352m30EA.30E9 3353m30EB.30D4.30FC
  3354m30EB.30FC.30D6.30EB 3355m30EC.30E0 3356m30EC.30F3.30C8.30B2.30F3 3357m30EF.30C3.30C8
  3358m30.70B9 3359m31.70B9 335Am32.70B9 335Bm33.70B9 335Cm34.70B9 335Dm35.70B9 335Em36.70B9
  335Fm37.70B9 3360m38.70B9 3361m39.70B9 3362m31.30.70B9 3363m31.31.70B9 3364m31.32.70B9
  3365m31.33.70B9 3366m31.34.70B9 3367m31.35.70B9 3368m31.36.70B9 3369m31.37.70B9 336Am31.38.70B9
  336Bm31.39.70B9 336Cm32.30.70B9 336Dm32.31.70B9 336Em32.32.70B9 336Fm32.33.70B9 3370m32.34.70B9
  3371m68.70.61 3372m64.61 3373m61.75 3374m62.61.72 3375m6F.76 3376m70.63 3377m64.6D 3378m64.6D.32
  3379m64.6D.33 337Am69.75 337Bm5E73.6210 337Cm662D.548C 337Dm5927.6B63 337Em660E.6CBB
  337Fm682A.5F0F.4F1A.793E 3380m70.61 3381m6E.61 3382m3BC.61 3383m6D.61 3384m6B.61 3385m6B.62
  3386m6D.62 3387m67.62 3388m63.61.6C 3389m6B.63.61.6C 338Am70.66 338Bm6E.66 338Cm3BC.66
  338Dm3BC.67 338Em6D.67 338Fm6B.67 3390m68.7A 3391m6B.68.7A 3392m6D.68.7A 3393m67.68.7A
  3394m74.68.7A 3395m3BC.6C 3396m6D.6C 3397m64.6C 3398m6B.6C 3399m66.6D 339Am6E.6D 339Bm3BC.6D
  339Cm6D.6D 339Dm63.6D 339Em6B.6D 339Fm6D.6D.32 33A0m63.6D.32 33A1m6D.32 33A2m6B.6D.32
  33A3m6D.6D.33 33A4m63.6D.33 33A5m6D.33 33A6m6B.6D.33 33A7m6D.2215.73 33A8m6D.2215.73.32
  33A9m70.61 33AAm6B.70.61 33ABm6D.70.61 33ACm67.70.61 33ADm72.61.64 33AEm72.61.64.2215.73
  33AFm72.61.64.2215.73.32 33B0m70.73 33B1m6E.73 33B2m3BC.73 33B3m6D.73 33B4m70.76 33B5m6E.76
  33B6m3BC.76 33B7m6D.76 33B8m6B.76 33B9m6D.76 33BAm70.77 33BBm6E.77 33BCm3BC.77 33BDm6D.77
  33BEm6B.77 33BFm6D.77 33C0m6B.3C9 33C1m6D.3C9 33C2x 33C3m62.71 33C4m63.63 33C5m63.64
  33C6m63.2215.6B.67 33C7x 33C8m64.62 33C9m67.79 33CAm68.61 33CBm68.70 33CCm69.6E 33CDm6B.6B
  33CEm6B.6D 33CFm6B.74 33D0m6C.6D 33D1m6C.6E 33D2m6C.6F.67 33D3m6C.78 33D4m6D.62 33D5m6D.69.6C
  33D6m6D.6F.6C 33D7m70.68 33D8x 33D9m70.70.6D 33DAm70.72 33DBm73.72 33DCm73.76 33DDm77.62
  33DEm76.2215.6D 33DFm61.2215.6D 33E0m31.65E5 33E1m32.65E5 33E2m33.65E5 33E3m34.65E5 33E4m35.65E5
  33E5m36.65E5 33E6m37.65E5 33E7m38.65E5 33E8m39.65E5 33E9m31.30.65E5 33EAm31.31.65E5
  33EBm31.32.65E5 33ECm31.33.65E5 33EDm31.34.65E5 33EEm31.35.65E5 33EFm31.36.65E5 33F0m31.37.65E5
  33F1m31.38.65E5 33F2m31.39.65E5 33F3m32.30.65E5 33F4m32.31.65E5 33F5m32.32.65E5 33F6m32.33.65E5
  33F7m32.34.65E5 33F8m32.35.65E5 33F9m32.36.65E5 33FAm32.37.65E5 33FBm32.38.65E5 33FCm32.39.65E5
  33FDm33.30.65E5 33FEm33.31.65E5 33FFm67.61.6C 3400v A48Dx A490v A4C7x A4D0v A62Cx A640a1 A66Dv
  A680a1 A69Bv A69Cs-41554 A69Ds-41553 A69Ev A6F8x A700v A722a1 A72Fv A732a1 A76Fv A770s-1 A771v
  A779a1 A77Cv A77Ds-35332 A77Ea1 A787v A78Bs1 A78Cv A78Ds-42280 A78Ev A790a1 A793v A796a1 A7A9v
  A7AAs-42308 A7ABs-42319 A7ACs-42315 A7ADs-42305 A7AEs-42308 A7AFv A7B0s-42258 A7B1s-42282
  A7B2s-42261 A7B3s928 A7B4a1 A7C3v A7C4s-48 A7C5s-42307 A7C6s-35384 A7C7a1 A7CAv A7CBs-42343
  A7CCa1 A7DBv A7DCs-42561 A7DDx A7F1s-42878 A7F2s-42895 A7F3s-42893 A7F4s-42883 A7F5s1 A7F6v
  A7F8s-42705 A7F9s-42662 A7FAv A82Dx A830v A83Ax A840v A878x A880v A8C6x A8CEv A8DAx A8E0v A954x
  A95Fv A97Dx A980v A9CEx A9CFv A9DAx A9DEv A9FFx AA00v AA37x AA40v AA4Ex AA50v AA5Ax AA5Cv AAC3x
  AADBv AAF7x AB01v AB07x AB09v AB0Fx AB11v AB17x AB20v AB27x AB28v AB2Fx AB30v AB5Cs-1077
  AB5Ds-38 AB5Es-43251 AB5Fs-13 AB60v AB69s-43228 AB6Av AB6Cx AB70s-38864 ABC0v ABEEx ABF0v ABFAx
  AC00v D7A4x D7B0v D7C7x D7CBv D7FCx F900s-27832 F901s-37389 F902s-27192 F903s-27707 F904s-35379
  F905s-43731 F906s-42273 F907m9F9C F909s-40888 F90As-26425 F90Bs-41860 F90Cs-40900 F90Ds-38679
  F90Es-33445 F90Fs-31114 F910s-29393 F911s-29015 F912s-28698 F913s-26756 F914s-36626 F915s-35834
  F916s-34877 F917s-34105 F918s-29915 F919s-26543 F91As-24361 F91Bs-43673 F91Cs-42407 F91Ds-36377
  F91Es-34563 F91Fs-29426 F920s-23298 F921s-39889 F922s-35127 F923s-29526 F924s-28608 F925s-38492
  F926s-30542 F927s-28936 F928s-39518 F929s-37394 F92As-35776 F92Bs-34351 F92Cs-26718 F92Ds-43431
  F92Es-42871 F92Fs-42577 F930s-37996 F931s-36446 F932s-34594 F933s-33356 F934s-31027 F935s-29487
  F936s-29402 F937s-27464 F938s-25094 F939s-24010 F93As-23360 F93Bs-32943 F93Cs-32701 F93Ds-31645
  F93Es-30069 F93Fs-26171 F940s-23233 F941s-28267 F942s-41059 F943s-39487 F944s-31972 F945s-30919
  F946s-34532 F947s-32893 F948s-27782 F949s-25170 F94As-41074 F94Bs-40169 F94Cs-36665 F94Ds-35699
  F94Es-35391 F94Fs-31776 F950s-31513 F951s-25350 F952s-42624 F953s-30920 F954s-42872 F955s-42889
  F956s-32570 F957s-31641 F958s-30055 F959s-25316 F95As-28122 F95Bs-38540 F95Cs-36698 F95Ds-28255
  F95Es-43813 F95Fs-40312 F960s-39246 F961s-34266 F962s-33778 F963s-42572 F964s-32873 F965s-43430
  F966s-39357 F967s-43866 F968s-35996 F969s-37873 F96As-31816 F96Bs-42408 F96Cs-41230 F96Ds-33388
  F96Es-29989 F96Fs-28357 F970s-36278 F971s-27073 F972s-36074 F973s-38517 F974s-30351 F975s-38357
  F976s-33809 F977s-43721 F978s-43023 F979s-42928 F97As-37113 F97Bs-31892 F97Cs-30477 F97Ds-28331
  F97Es-26543 F97Fs-42634 F980s-42302 F981s-40974 F982s-39574 F983s-37822 F984s-35206 F985s-32859
  F986s-25561 F987s-24349 F988s-23281 F989s-23227 F98As-42735 F98Bs-37573 F98Cs-36373 F98Ds-27179
  F98Es-39706 F98Fs-38911 F990s-38800 F991s-38135 F992s-35439 F993s-34890 F994s-34059 F995s-32715
  F996s-31650 F997s-31016 F998s-27250 F999s-29867 F99As-26999 F99Bs-26193 F99Cs-42885 F99Ds-42746
  F99Es-42209 F99Fs-35031 F9A0s-28894 F9A1s-28407 F9A2s-39641 F9A3s-39342 F9A4s-38441 F9A5s-36343
  F9A6s-32104 F9A7s-34354 F9A8s-43716 F9A9s-41648 F9AAs-40387 F9ABs-39921 F9ACs-39312 F9ADs-34299
  F9AEs-34117 F9AFs-31253 F9B0s-31082 F9B1s-26493 F9B2s-25276 F9B3s-25195 F9B4s-24988 F9B5s-43562
  F9B6s-32776 F9B7s-26627 F9B8s-25344 F9B9s-39128 F9BAs-43828 F9BBs-43233 F9BCs-40398 F9BDs-40318
  F9BEs-37925 F9BFs-36797 F9C0s-34802 F9C1s-33663 F9C2s-29894 F9C3s-26951 F9C4s-23095 F9C5s-37693
  F9C6s-25496 F9C7s-42814 F9C8s-37453 F9C9s-37334 F9CAs-35977 F9CBs-35631 F9CCs-34243 F9CDs-33908
  F9CEs-33123 F9CFs-31935 F9D0s-24946 F9D1s-43108 F9D2s-38820 F9D3s-25435 F9D4s-43433 F9D5s-40124
  F9D6s-35820 F9D7s-27309 F9D8s-39501 F9D9s-39061 F9DAs-37315 F9DBs-34388 F9DCs-25430 F9DDs-42932
  F9DEs-42447 F9DFs-40314 F9E0s-37837 F9E1s-37523 F9E2s-37178 F9E3s-36094 F9E4s-34270 F9E5s-33795
  F9E6s-31341 F9E7s-28952 F9E8s-28935 F9E9s-26653 F9EAs-25352 F9EBs-42668 F9ECs-35634 F9EDs-42448
  F9EEs-34846 F9EFs-34135 F9F0s-29686 F9F1s-25422 F9F2s-23963 F9F3s-23380 F9F4s-37469 F9F5s-35882
  F9F6s-30734 F9F7s-32556 F9F8s-32472 F9F9s-32103 F9FAs-34618 F9FBs-35170 F9FCs-28324 F9FDs-43837
  F9FEs-30408 F9FFs-42949 FA00s-43001 FA01s-39771 FA02s-38703 FA03s-32045 FA04s-40575 FA05s-36071
  FA06s-37714 FA07s-27340 FA08s-29116 FA09s-25532 FA0As-28799 FA0Bs-39736 FA0Cs-43212 FA0Ds-42061
  FA0Ev FA10s-41398 FA11v FA12s-37790 FA13v FA15s-43063 FA16s-34540 FA17s-33613 FA18s-32988
  FA19s-32955 FA1As-32949 FA1Bs-32908 FA1Cs-25286 FA1Ds-32095 FA1Es-31329 FA1Fv FA20s-29710 FA21v
  FA22s-28458 FA23v FA25s-27117 FA26s-26921 FA27v FA2As-24891 FA2Bs-24879 FA2Cs-24836 FA2Ds-23673
  FA2Es-26960 FA2Fs-25464 FA30s-43650 FA31s-43338 FA32s-43237 FA33s-42858 FA34s-42832 FA35s-42724
  FA36s-42137 FA37s-42033 FA38s-41936 FA39s-41465 FA3As-41362 FA3Bs-40407 FA3Cs-40398 FA3Ds-39337
  FA3Es-39126 FA3Fs-39089 FA40s-38990 FA41s-38130 FA42s-37984 FA43s-37810 FA44s-37311 FA45s-36046
  FA46s-35884 FA47s-35621 FA48s-35034 FA49s-34846 FA4As-34344 FA4Bs-33210 FA4Cs-33038 FA4Ds-33028
  FA4Es-33030 FA4Fs-33023 FA50s-33018 FA51s-33012 FA52s-32965 FA54s-32788 FA55s-32724 FA56s-32406
  FA57s-31843 FA58s-31823 FA59s-31768 FA5As-31464 FA5Bs-31318 FA5Cs-30831 FA5Dm8279 FA5Fs-30216
  FA60s-29008 FA61s-28875 FA62s-28513 FA63s-28458 FA64s-28049 FA65s-27997 FA66s-27312 FA67s-27183
  FA68s-25477 FA69s-25194 FA6As-25135 FA6Bs-39414 FA6Cs84098 FA6Ds-30805 FA6Ex FA70s-44106
  FA71s-43196 FA72s-43274 FA73s-43763 FA74s-43311 FA75s-43253 FA76s-42927 FA77s-42877 FA78s-42203
  FA79s-42276 FA7As-42209 FA7Bs-42137 FA7Cs-41506 FA7Ds-41418 FA7Es-41274 FA7Fs-41259 FA80s-40990
  FA81s-40793 FA82s-39856 FA83s-39850 FA84s-39707 FA85s-39640 FA86s-39342 FA87s-39225 FA88s-39296
  FA89s-39163 FA8As-39210 FA8Bs-39065 FA8Cs-39000 FA8Ds-38601 FA8Es-38514 FA8Fs-38461 FA90s-38202
  FA91s-37917 FA92s-37755 FA93s-37752 FA94s-37694 FA95s-36636 FA96s-36572 FA97s-36182 FA98s-35773
  FA99s-35790 FA9As-35704 FA9Bs-35453 FA9Cs-35118 FA9Ds-33526 FA9Es-34921 FA9Fs-34800 FAA0s-34678
  FAA1s-34352 FAA2s-34204 FAA3s-34152 FAA4s-33927 FAA5s-33926 FAA6s-33756 FAA7s-33740 FAA8s-33716
  FAA9s-33631 FAAAs-33642 FAABs-33247 FAACs-32763 FAADs-32493 FAAEs-32307 FAAFs-32084 FAB0s-31932
  FAB1s-31603 FAB2s-31405 FAB3s-30561 FAB4s-30405 FAB5s-29500 FAB6s-29045 FAB7s-28977 FAB8s-28962
  FAB9s-28666 FABAs-28610 FABBs-28656 FABCs-28603 FABDs-28607 FABEs-28625 FABFs-28550 FAC0s-28470
  FAC1s-28089 FAC2s-27530 FAC3s-27217 FAC4s-26923 FAC5s-26703 FAC6s-25674 FAC7s-25572 FAC8s-25458
  FAC9s-25326 FACAs-25291 FACBs-25280 FACCs-25233 FACDs-24507 FACEs-23346 FACFs77179 FAD0s77172
  FAD1s80132 FAD2s-48949 FAD3s-47803 FAD4s-47771 FAD5s87924 FAD6s90618 FAD7s99324 FAD8s-23445
  FAD9s-23371 FADAx FB00m66.66 FB01m66.69 FB02m66.6C FB03m66.66.69 FB04m66.66.6C FB05m73.74 FB07x
  FB13m574.576 FB14m574.565 FB15m574.56B FB16m57E.576 FB17m574.56D FB18x FB1Dm5D9.5B4 FB1Ev
  FB1Fm5F2.5B7 FB20s-62782 FB21s-62801 FB22s-62799 FB24s-62793 FB27s-62783 FB28s-62782 FB29s-64254
  FB2Am5E9.5C1 FB2Bm5E9.5C2 FB2Cm5E9.5BC.5C1 FB2Dm5E9.5BC.5C2 FB2Em5D0.5B7 FB2Fm5D0.5B8
  FB30m5D0.5BC FB31m5D1.5BC FB32m5D2.5BC FB33m5D3.5BC FB34m5D4.5BC FB35m5D5.5BC FB36m5D6.5BC FB37x
  FB38m5D8.5BC FB39m5D9.5BC FB3Am5DA.5BC FB3Bm5DB.5BC FB3Cm5DC.5BC FB3Dx FB3Em5DE.5BC FB3Fx
  FB40m5E0.5BC FB41m5E1.5BC FB42x FB43m5E3.5BC FB44m5E4.5BC FB45x FB46m5E6.5BC FB47m5E7.5BC
  FB48m5E8.5BC FB49m5E9.5BC FB4Am5EA.5BC FB4Bm5D5.5B9 FB4Cm5D1.5BF FB4Dm5DB.5BF FB4Em5E4.5BF
  FB4Fm5D0.5DC FB50m671 FB52m67B FB56m67E FB5Am680 FB5Em67A FB62m67F FB66m679 FB6Am6A4 FB6Em6A6
  FB72m684 FB76m683 FB7Am686 FB7Em687 FB82m68D FB84m68C FB86m68E FB88m688 FB8Am698 FB8Cm691
  FB8Em6A9 FB92m6AF FB96m6B3 FB9Am6B1 FB9Em6BA FBA0m6BB FBA4m6C0 FBA6m6C1 FBAAm6BE FBAEm6D2
  FBB0m6D3 FBB2v FBD3m6AD FBD7m6C7 FBD9m6C6 FBDBm6C8 FBDDm6C7.674 FBDEm6CB FBE0m6C5 FBE2m6C9
  FBE4m6D0 FBE8m649 FBEAm626.627 FBECm626.6D5 FBEEm626.648 FBF0m626.6C7 FBF2m626.6C6 FBF4m626.6C8
  FBF6m626.6D0 FBF9m626.649 FBFCm6CC FC00m626.62C FC01m626.62D FC02m626.645 FC03m626.649
  FC04m626.64A FC05m628.62C FC06m628.62D FC07m628.62E FC08m628.645 FC09m628.649 FC0Am628.64A
  FC0Bm62A.62C FC0Cm62A.62D FC0Dm62A.62E FC0Em62A.645 FC0Fm62A.649 FC10m62A.64A FC11m62B.62C
  FC12m62B.645 FC13m62B.649 FC14m62B.64A FC15m62C.62D FC16m62C.645 FC17m62D.62C FC18m62D.645
  FC19m62E.62C FC1Am62E.62D FC1Bm62E.645 FC1Cm633.62C FC1Dm633.62D FC1Em633.62E FC1Fm633.645
  FC20m635.62D FC21m635.645 FC22m636.62C FC23m636.62D FC24m636.62E FC25m636.645 FC26m637.62D
  FC27m637.645 FC28m638.645 FC29m639.62C FC2Am639.645 FC2Bm63A.62C FC2Cm63A.645 FC2Dm641.62C
  FC2Em641.62D FC2Fm641.62E FC30m641.645 FC31m641.649 FC32m641.64A FC33m642.62D FC34m642.645
  FC35m642.649 FC36m642.64A FC37m643.627 FC38m643.62C FC39m643.62D FC3Am643.62E FC3Bm643.644
  FC3Cm643.645 FC3Dm643.649 FC3Em643.64A FC3Fm644.62C FC40m644.62D FC41m644.62E FC42m644.645
  FC43m644.649 FC44m644.64A FC45m645.62C FC46m645.62D FC47m645.62E FC48m645.645 FC49m645.649
  FC4Am645.64A FC4Bm646.62C FC4Cm646.62D FC4Dm646.62E FC4Em646.645 FC4Fm646.649 FC50m646.64A
  FC51m647.62C FC52m647.645 FC53m647.649 FC54m647.64A FC55m64A.62C FC56m64A.62D FC57m64A.62E
  FC58m64A.645 FC59m64A.649 FC5Am64A.64A FC5Bm630.670 FC5Cm631.670 FC5Dm649.670 FC5Em20.64C.651
  FC5Fm20.64D.651 FC60m20.64E.651 FC61m20.64F.651 FC62m20.650.651 FC63m20.651.670 FC64m626.631
  FC65m626.632 FC66m626.645 FC67m626.646 FC68m626.649 FC69m626.64A FC6Am628.631 FC6Bm628.632
  FC6Cm628.645 FC6Dm628.646 FC6Em628.649 FC6Fm628.64A FC70m62A.631 FC71m62A.632 FC72m62A.645
  FC73m62A.646 FC74m62A.649 FC75m62A.64A FC76m62B.631 FC77m62B.632 FC78m62B.645 FC79m62B.646
  FC7Am62B.649 FC7Bm62B.64A FC7Cm641.649 FC7Dm641.64A FC7Em642.649 FC7Fm642.64A FC80m643.627
  FC81m643.644 FC82m643.645 FC83m643.649 FC84m643.64A FC85m644.645 FC86m644.649 FC87m644.64A
  FC88m645.627 FC89m645.645 FC8Am646.631 FC8Bm646.632 FC8Cm646.645 FC8Dm646.646 FC8Em646.649
  FC8Fm646.64A FC90m649.670 FC91m64A.631 FC92m64A.632 FC93m64A.645 FC94m64A.646 FC95m64A.649
  FC96m64A.64A FC97m626.62C FC98m626.62D FC99m626.62E FC9Am626.645 FC9Bm626.647 FC9Cm628.62C
  FC9Dm628.62D FC9Em628.62E FC9Fm628.645 FCA0m628.647 FCA1m62A.62C FCA2m62A.62D FCA3m62A.62E
  FCA4m62A.645 FCA5m62A.647 FCA6m62B.645 FCA7m62C.62D FCA8m62C.645 FCA9m62D.62C FCAAm62D.645
  FCABm62E.62C FCACm62E.645 FCADm633.62C FCAEm633.62D FCAFm633.62E FCB0m633.645 FCB1m635.62D
  FCB2m635.62E FCB3m635.645 FCB4m636.62C FCB5m636.62D FCB6m636.62E FCB7m636.645 FCB8m637.62D
  FCB9m638.645 FCBAm639.62C FCBBm639.645 FCBCm63A.62C FCBDm63A.645 FCBEm641.62C FCBFm641.62D
  FCC0m641.62E FCC1m641.645 FCC2m642.62D FCC3m642.645 FCC4m643.62C FCC5m643.62D FCC6m643.62E
  FCC7m643.644 FCC8m643.645 FCC9m644.62C FCCAm644.62D FCCBm644.62E FCCCm644.645 FCCDm644.647
  FCCEm645.62C FCCFm645.62D FCD0m645.62E FCD1m645.645 FCD2m646.62C FCD3m646.62D FCD4m646.62E
  FCD5m646.645 FCD6m646.647 FCD7m647.62C FCD8m647.645 FCD9m647.670 FCDAm64A.62C FCDBm64A.62D
  FCDCm64A.62E FCDDm64A.645 FCDEm64A.647 FCDFm626.645 FCE0m626.647 FCE1m628.645 FCE2m628.647
  FCE3m62A.645 FCE4m62A.647 FCE5m62B.645 FCE6m62B.647 FCE7m633.645 FCE8m633.647 FCE9m634.645
  FCEAm634.647 FCEBm643.644 FCECm643.645 FCEDm644.645 FCEEm646.645 FCEFm646.647 FCF0m64A.645
  FCF1m64A.647 FCF2m640.64E.651 FCF3m640.64F.651 FCF4m640.650.651 FCF5m637.649 FCF6m637.64A
  FCF7m639.649 FCF8m639.64A FCF9m63A.649 FCFAm63A.64A FCFBm633.649 FCFCm633.64A FCFDm634.649
  FCFEm634.64A FCFFm62D.649 FD00m62D.64A FD01m62C.649 FD02m62C.64A FD03m62E.649 FD04m62E.64A
  FD05m635.649 FD06m635.64A FD07m636.649 FD08m636.64A FD09m634.62C FD0Am634.62D FD0Bm634.62E
  FD0Cm634.645 FD0Dm634.631 FD0Em633.631 FD0Fm635.631 FD10m636.631 FD11m637.649 FD12m637.64A
  FD13m639.649 FD14m639.64A FD15m63A.649 FD16m63A.64A FD17m633.649 FD18m633.64A FD19m634.649
  FD1Am634.64A FD1Bm62D.649 FD1Cm62D.64A FD1Dm62C.649 FD1Em62C.64A FD1Fm62E.649 FD20m62E.64A
  FD21m635.649 FD22m635.64A FD23m636.649 FD24m636.64A FD25m634.62C FD26m634.62D FD27m634.62E
  FD28m634.645 FD29m634.631 FD2Am633.631 FD2Bm635.631 FD2Cm636.631 FD2Dm634.62C FD2Em634.62D
  FD2Fm634.62E FD30m634.645 FD31m633.647 FD32m634.647 FD33m637.645 FD34m633.62C FD35m633.62D
  FD36m633.62E FD37m634.62C FD38m634.62D FD39m634.62E FD3Am637.645 FD3Bm638.645 FD3Cm627.64B FD3Ev
  FD50m62A.62C.645 FD51m62A.62D.62C FD53m62A.62D.645 FD54m62A.62E.645 FD55m62A.645.62C
  FD56m62A.645.62D FD57m62A.645.62E FD58m62C.645.62D FD5Am62D.645.64A FD5Bm62D.645.649
  FD5Cm633.62D.62C FD5Dm633.62C.62D FD5Em633.62C.649 FD5Fm633.645.62D FD61m633.645.62C
  FD62m633.645.645 FD64m635.62D.62D FD66m635.645.645 FD67m634.62D.645 FD69m634.62C.64A
  FD6Am634.645.62E FD6Cm634.645.645 FD6Em636.62D.649 FD6Fm636.62E.645 FD71m637.645.62D
  FD73m637.645.645 FD74m637.645.64A FD75m639.62C.645 FD76m639.645.645 FD78m639.645.649
  FD79m63A.645.645 FD7Am63A.645.64A FD7Bm63A.645.649 FD7Cm641.62E.645 FD7Em642.645.62D
  FD7Fm642.645.645 FD80m644.62D.645 FD81m644.62D.64A FD82m644.62D.649 FD83m644.62C.62C
  FD85m644.62E.645 FD87m644.645.62D FD89m645.62D.62C FD8Am645.62D.645 FD8Bm645.62D.64A
  FD8Cm645.62C.62D FD8Dm645.62C.645 FD8Em645.62E.62C FD8Fm645.62E.645 FD90v FD92m645.62C.62E
  FD93m647.645.62C FD94m647.645.645 FD95m646.62D.645 FD96m646.62D.649 FD97m646.62C.645
  FD99m646.62C.649 FD9Am646.645.64A FD9Bm646.645.649 FD9Cm64A.645.645 FD9Em628.62E.64A
  FD9Fm62A.62C.64A FDA0m62A.62C.649 FDA1m62A.62E.64A FDA2m62A.62E.649 FDA3m62A.645.64A
  FDA4m62A.645.649 FDA5m62C.645.64A FDA6m62C.62D.649 FDA7m62C.645.649 FDA8m633.62E.649
  FDA9m635.62D.64A FDAAm634.62D.64A FDABm636.62D.64A FDACm644.62C.64A FDADm644.645.64A
  FDAEm64A.62D.64A FDAFm64A.62C.64A FDB0m64A.645.64A FDB1m645.645.64A FDB2m642.645.64A
  FDB3m646.62D.64A FDB4m642.645.62D FDB5m644.62D.645 FDB6m639.645.64A FDB7m643.645.64A
  FDB8m646.62C.62D FDB9m645.62E.64A FDBAm644.62C.645 FDBBm643.645.645 FDBCm644.62C.645
  FDBDm646.62C.62D FDBEm62C.62D.64A FDBFm62D.62C.64A FDC0m645.62C.64A FDC1m641.645.64A
  FDC2m628.62D.64A FDC3m643.645.645 FDC4m639.62C.645 FDC5m635.645.645 FDC6m633.62E.64A
  FDC7m646.62C.64A FDC8v FDD0x FDF0m635.644.6D2 FDF1m642.644.6D2 FDF2m627.644.644.647
  FDF3m627.643.628.631 FDF4m645.62D.645.62F FDF5m635.644.639.645 FDF6m631.633.648.644
  FDF7m639.644.64A.647 FDF8m648.633.644.645 FDF9m635.644.649
  FDFAm635.644.649.20.627.644.644.647.20.639.644.64A.647.20.648.633.644.645
  FDFBm62C.644.20.62C.644.627.644.647 FDFCm631.6CC.627.644 FDFDv FE00i FE10s-64996 FE11s-52752
  FE12x FE13s-64985 FE15s-65012 FE16s-64983 FE17s-52737 FE19x FE20v FE30x FE31s-56861 FE32s-56863
  FE33m5F FE35s-65037 FE37s-64956 FE38s-64955 FE39s-52773 FE3Bs-52779 FE3Ds-52787 FE3Fs-52791
  FE41s-52789 FE45v FE47s-65004 FE48s-65003 FE49m20.305 FE4Dm5F FE50s-65060 FE51s-52816 FE52x
  FE54s-65049 FE55s-65051 FE56s-65047 FE57s-65078 FE58s-56900 FE59s-65073 FE5Bs-64992 FE5Cs-64991
  FE5Ds-52809 FE5Fs-65084 FE60s-65082 FE61s-65079 FE63s-65078 FE64s-65064 FE65s-65063 FE66s-65065
  FE67x FE68s-65036 FE69s-65093 FE6Bs-65067 FE6Cx FE70m20.64B FE71m640.64B FE72m20.64C FE73v
  FE74m20.64D FE75x FE76m20.64E FE77m640.64E FE78m20.64F FE79m640.64F FE7Am20.650 FE7Bm640.650
  FE7Cm20.651 FE7Dm640.651 FE7Em20.652 FE7Fm640.652 FE80s-63583 FE81m622 FE83m623 FE85m624
  FE87m625 FE89m626 FE8Dm627 FE8Fm628 FE93m629 FE95m62A FE99m62B FE9Dm62C FEA1m62D FEA5m62E
  FEA9m62F FEABm630 FEADm631 FEAFm632 FEB1m633 FEB5m634 FEB9m635 FEBDm636 FEC1m637 FEC5m638
  FEC9m639 FECDm63A FED1m641 FED5m642 FED9m643 FEDDm644 FEE1m645 FEE5m646 FEE9m647 FEEDm648
  FEEFm649 FEF1m64A FEF5m644.622 FEF7m644.623 FEF9m644.625 FEFBm644.627 FEFDx FEFFi FF00x
  FF01s-65248 FF21s-65216 FF3Bs-65248 FF5Fs-54746 FF61s-65331 FF62s-53078 FF64s-53091 FF65s-52842
  FF66s-52852 FF67s-52934 FF68s-52933 FF69s-52932 FF6As-52931 FF6Bs-52930 FF6Cs-52873 FF6Ds-52872
  FF6Es-52871 FF6Fs-52908 FF70s-52852 FF71s-52943 FF72s-52942 FF73s-52941 FF74s-52940 FF75s-52939
  FF77s-52938 FF78s-52937 FF79s-52936 FF7As-52935 FF7Bs-52934 FF7Cs-52933 FF7Ds-52932 FF7Es-52931
  FF7Fs-52930 FF80s-52929 FF81s-52928 FF82s-52926 FF83s-52925 FF84s-52924 FF85s-52923 FF8Bs-52921
  FF8Cs-52919 FF8Ds-52917 FF8Es-52915 FF8Fs-52913 FF94s-52912 FF95s-52911 FF96s-52910 FF9Cs-52909
  FF9Ds-52906 FF9Es-52997 FFA0i FFA1s-61089 FFA3s-60921 FFA4s-61090 FFA5s-60921 FFA7s-61092
  FFAAs-60922 FFB0s-61078 FFB1s-61099 FFB4s-61075 FFB5s-61100 FFBFx FFC2s-61025 FFC8x FFCAs-61027
  FFD0x FFD2s-61029 FFD8x FFDAs-61031 FFDDx FFE0s-65342 FFE2s-65334 FFE3m20.304 FFE4s-65342
  FFE5s-65344 FFE6s-57149 FFE7x FFE8s-56038 FFE9s-56921 FFEDs-55885 FFEEs-55843 FFEFx 10000v
  1000Cx 1000Dv 10027x 10028v 1003Bx 1003Cv 1003Ex 1003Fv 1004Ex 10050v 1005Ex 10080v 100FBx
  10100v 10103x 10107v 10134x 10137v 1018Fx 10190v 1019Dx 101A0v 101A1x 101D0v 101FEx 10280v
  1029Dx 102A0v 102D1x 102E0v 102FCx 10300v 10324x 1032Dv 1034Bx 10350v 1037Bx 10380v 1039Ex
  1039Fv 103C4x 103C8v 103D6x 10400s40 10428v 1049Ex 104A0v 104AAx 104B0s40 104D4x 104D8v 104FCx
  10500v 10528x 10530v 10564x 1056Fv 10570s39 1057Bx 1057Cs39 1058Bx 1058Cs39 10593x 10594s39
  10596x 10597v 105A2x 105A3v 105B2x 105B3v 105BAx 105BBv 105BDx 105C0v 105F4x 10600v 10737x
  10740v 10756x 10760v 10768x 10780v 10781s-66737 10783s-67229 10784s-66795 10785s-66866 10786x
  10787s-66788 10788s-23586 10789s-66788 1078As-66790 1078Bs-66869 1078Ds-59900 1078Es-66870
  1078Fs-66865 10790s-66791 10791s-66861 10792s-66864 10793s-66867 10794s-66809 10795s-67182
  10796s-66810 10797s-66864 10798s-66836 10799s-66799 1079Bs-66863 1079Cs55144 1079Ds-24591
  1079Es-66864 1079Fs55142 107A0s-66834 107A1s55141 107A2s-67242 107A3s-66861 107A5s-67380
  107A6s-66860 107A7s55137 107A8s-66859 107AAs-66858 107ABs-66819 107ACs-66822 107ADs-23622
  107AEs-66823 107AFs-66855 107B0s-56127 107B1x 107B2s-66851 107B3s-66834 107B5s-66845
  107B6s-67062 107B9s55121 107BAs55140 107BBx 10800v 10806x 10808v 10809x 1080Av 10836x 10837v
  10839x 1083Cv 1083Dx 1083Fv 10856x 10857v 1089Fx 108A7v 108B0x 108E0v 108F3x 108F4v 108F6x
  108FBv 1091Cx 1091Fv 1093Ax 1093Fv 1095Ax 10980v 109B8x 109BCv 109D0x 109D2v 10A04x 10A05v
  10A07x 10A0Cv 10A14x 10A15v 10A18x 10A19v 10A36x 10A38v 10A3Bx 10A3Fv 10A49x 10A50v 10A59x
  10A60v 10AA0x 10AC0v 10AE7x 10AEBv 10AF7x 10B00v 10B36x 10B39v 10B56x 10B58v 10B73x 10B78v
  10B92x 10B99v 10B9Dx 10BA9v 10BB0x 10C00v 10C49x 10C80s64 10CB3x 10CC0v 10CF3x 10CFAv 10D28x
  10D30v 10D3Ax 10D40v 10D50s32 10D66x 10D69v 10D86x 10D8Ev 10D90x 10E60v 10E7Fx 10E80v 10EAAx
  10EABv 10EAEx 10EB0v 10EB2x 10EC2v 10EC8x 10ED0v 10ED9x 10EFAv 10F28x 10F30v 10F5Ax 10F70v
  10F8Ax 10FB0v 10FCCx 10FE0v 10FF7x 11000v 1104Ex 11052v 11076x 1107Fv 110BDx 110BEv 110C3x
  110D0v 110E9x 110F0v 110FAx 11100v 11135x 11136v 11148x 11150v 11177x 11180v 111E0x 111E1v
  111F5x 11200v 11212x 11213v 11242x 11280v 11287x 11288v 11289x 1128Av 1128Ex 1128Fv 1129Ex
  1129Fv 112AAx 112B0v 112EBx 112F0v 112FAx 11300v 11304x 11305v 1130Dx 1130Fv 11311x 11313v
  11329x 1132Av 11331x 11332v 11334x 11335v 1133Ax 1133Bv 11345x 11347v 11349x 1134Bv 1134Ex
  11350v 11351x 11357v 11358x 1135Dv 11364x 11366v 1136Dx 11370v 11375x 11380v 1138Ax 1138Bv
  1138Cx 1138Ev 1138Fx 11390v 113B6x 113B7v 113C1x 113C2v 113C3x 113C5v 113C6x 113C7v 113CBx
  113CCv 113D6x 113D7v 113D9x 113E1v 113E3x 11400v 1145Cx 1145Dv 11462x 11480v 114C8x 114D0v
  114DAx 11580v 115B6x 115B8v 115DEx 11600v 11645x 11650v 1165Ax 11660v 1166Dx 11680v 116BAx
  116C0v 116CAx 116D0v 116E4x 11700v 1171Bx 1171Dv 1172Cx 11730v 11747x 11800v 1183Cx 118A0s32
  118C0v 118F3x 118FFv 11907x 11909v 1190Ax 1190Cv 11914x 11915v 11917x 11918v 11936x 11937v
  11939x 1193Bv 11947x 11950v 1195Ax 119A0v 119A8x 119AAv 119D8x 119DAv 119E5x 11A00v 11A48x
  11A50v 11AA3x 11AB0v 11AF9x 11B00v 11B0Ax 11B60v 11B68x 11BC0v 11BE2x 11BF0v 11BFAx 11C00v
  11C09x 11C0Av 11C37x 11C38v 11C46x 11C50v 11C6Dx 11C70v 11C90x 11C92v 11CA8x 11CA9v 11CB7x
  11D00v 11D07x 11D08v 11D0Ax 11D0Bv 11D37x 11D3Av 11D3Bx 11D3Cv 11D3Ex 11D3Fv 11D48x 11D50v
  11D5Ax 11D60v 11D66x 11D67v 11D69x 11D6Av 11D8Fx 11D90v 11D92x 11D93v 11D99x 11DA0v 11DAAx
  11DB0v 11DDCx 11DE0v 11DEAx 11EE0v 11EF9x 11F00v 11F11x 11F12v 11F3Bx 11F3Ev 11F5Bx 11FB0v
  11FB1x 11FC0v 11FF2x 11FFFv 1239Ax 12400v 1246Fx 12470v 12475x 12480v 12544x 12F90v 12FF3x
  13000v 13430x 13440v 13456x 13460v 143FBx 14400v 14647x 16100v 1613Ax 16800v 16A39x 16A40v
  16A5Fx 16A60v 16A6Ax 16A6Ev 16ABFx 16AC0v 16ACAx 16AD0v 16AEEx 16AF0v 16AF6x 16B00v 16B46x
  16B50v 16B5Ax 16B5Bv 16B62x 16B63v 16B78x 16B7Dv 16B90x 16D40v 16D7Ax 16E40s32 16E60v 16E9Bx
  16EA0s27 16EB9x 16EBBv 16ED4x 16F00v 16F4Bx 16F4Fv 16F88x 16F8Fv 16FA0x 16FE0v 16FE5x 16FF0v
  16FF7x 17000v 18CD6x 18CFFv 18D1Fx 18D80v 18DF3x 1AFF0v 1AFF4x 1AFF5v 1AFFCx 1AFFDv 1AFFFx
  1B000v 1B123x 1B132v 1B133x 1B150v 1B153x 1B155v 1B156x 1B164v 1B168x 1B170v 1B2FCx 1BC00v
  1BC6Bx 1BC70v 1BC7Dx 1BC80v 1BC89x 1BC90v 1BC9Ax 1BC9Cv 1BCA0i 1BCA4x 1CC00v 1CCD6s-117877
  1CCF0s-117952 1CCFAv 1CCFDx 1CD00v 1CEB4x 1CEBAv 1CED1x 1CEE0v 1CEF1x 1CF00v 1CF2Ex 1CF30v
  1CF47x 1CF50v 1CFC4x 1D000v 1D0F6x 1D100v 1D127x 1D129v 1D15Em1D157.1D165 1D15Fm1D158.1D165
  1D160m1D158.1D165.1D16E 1D161m1D158.1D165.1D16F 1D162m1D158.1D165.1D170 1D163m1D158.1D165.1D171
  1D164m1D158.1D165.1D172 1D165v 1D173i 1D17Bv 1D1BBm1D1B9.1D165 1D1BCm1D1BA.1D165
  1D1BDm1D1B9.1D165.1D16E 1D1BEm1D1BA.1D165.1D16E 1D1BFm1D1B9.1D165.1D16F 1D1C0m1D1BA.1D165.1D16F
  1D1C1v 1D1EBx 1D200v 1D246x 1D2C0v 1D2D4x 1D2E0v 1D2F4x 1D300v 1D357x 1D360v 1D379x
  1D400s-119711 1D41As-119737 1D434s-119763 1D44Es-119789 1D455x 1D456s-119789 1D468s-119815
  1D482s-119841 1D49Cs-119867 1D49Dx 1D49Es-119867 1D4A0x 1D4A2s-119867 1D4A3x 1D4A5s-119867
  1D4A7x 1D4A9s-119867 1D4ADx 1D4AEs-119867 1D4B6s-119893 1D4BAx 1D4BBs-119893 1D4BCx
  1D4BDs-119893 1D4C4x 1D4C5s-119893 1D4D0s-119919 1D4EAs-119945 1D504s-119971 1D506x
  1D507s-119971 1D50Bx 1D50Ds-119971 1D515x 1D516s-119971 1D51Dx 1D51Es-119997 1D538s-120023
  1D53Ax 1D53Bs-120023 1D53Fx 1D540s-120023 1D545x 1D546s-120023 1D547x 1D54As-120023 1D551x
  1D552s-120049 1D56Cs-120075 1D586s-120101 1D5A0s-120127 1D5BAs-120153 1D5D4s-120179
  1D5EEs-120205 1D608s-120231 1D622s-120257 1D63Cs-120283 1D656s-120309 1D670s-120335
  1D68As-120361 1D6A4s-120179 1D6A5s-119918 1D6A6x 1D6A8s-119543 1D6B9s-119553 1D6BAs-119543
  1D6C1s-111802 1D6C2s-119569 1D6D3m3C3 1D6D5s-119569 1D6DBs-111833 1D6DCs-119591 1D6DDs-119589
  1D6DEs-119588 1D6DFs-119577 1D6E0s-119583 1D6E1s-119585 1D6E2s-119601 1D6F3s-119611
  1D6F4s-119601 1D6FBs-111860 1D6FCs-119627 1D70Dm3C3 1D70Fs-119627 1D715s-111891 1D716s-119649
  1D717s-119647 1D718s-119646 1D719s-119635 1D71As-119641 1D71Bs-119643 1D71Cs-119659
  1D72Ds-119669 1D72Es-119659 1D735s-111918 1D736s-119685 1D747m3C3 1D749s-119685 1D74Fs-111949
  1D750s-119707 1D751s-119705 1D752s-119704 1D753s-119693 1D754s-119699 1D755s-119701
  1D756s-119717 1D767s-119727 1D768s-119717 1D76Fs-111976 1D770s-119743 1D781m3C3 1D783s-119743
  1D789s-112007 1D78As-119765 1D78Bs-119763 1D78Cs-119762 1D78Ds-119751 1D78Es-119757
  1D78Fs-119759 1D790s-119775 1D7A1s-119785 1D7A2s-119775 1D7A9s-112034 1D7AAs-119801 1D7BBm3C3
  1D7BDs-119801 1D7C3s-112065 1D7C4s-119823 1D7C5s-119821 1D7C6s-119820 1D7C7s-119809
  1D7C8s-119815 1D7C9s-119817 1D7CAm3DD 1D7CCx 1D7CEs-120734 1D7D8s-120744 1D7E2s-120754
  1D7ECs-120764 1D7F6s-120774 1D800v 1DA8Cx 1DA9Bv 1DAA0x 1DAA1v 1DAB0x 1DF00v 1DF1Fx 1DF25v
  1DF2Bx 1E000v 1E007x 1E008v 1E019x 1E01Bv 1E022x 1E023v 1E025x 1E026v 1E02Bx 1E030s-121856
  1E039s-121855 1E03Cs-121854 1E047s-121852 1E048s-121851 1E04As-80321 1E04Bs-121714 1E04Cs-121846
  1E04Ds-121845 1E04Es-121701 1E04Fs-121760 1E050s-121729 1E051s-121889 1E05As-121888
  1E05Cs-121886 1E05Es-121885 1E05Fs-121884 1E065s-121883 1E067s-121814 1E068s-121874
  1E069s-121876 1E06As-121867 1E06Bs-121792 1E06Cs-80411 1E06Ds-121788 1E06Ex 1E08Fv 1E090x 1E100v
  1E12Dx 1E130v 1E13Ex 1E140v 1E14Ax 1E14Ev 1E150x 1E290v 1E2AFx 1E2C0v 1E2FAx 1E2FFv 1E300x
  1E4D0v 1E4FAx 1E5D0v 1E5FBx 1E5FFv 1E600x 1E6C0v 1E6DFx 1E6E0v 1E6F6x 1E6FEv 1E700x 1E7E0v
  1E7E7x 1E7E8v 1E7ECx 1E7EDv 1E7EFx 1E7F0v 1E7FFx 1E800v 1E8C5x 1E8C7v 1E8D7x 1E900s34 1E922v
  1E94Cx 1E950v 1E95Ax 1E95Ev 1E960x 1EC71v 1ECB5x 1ED01v 1ED3Ex 1EE00s-124889 1EE02s-124886
  1EE03s-124884 1EE04x 1EE05s-124861 1EE06s-124884 1EE07s-124890 1EE08s-124881 1EE09s-124863
  1EE0As-124871 1EE0Es-124891 1EE0Fs-124886 1EE10s-124879 1EE11s-124892 1EE12s-124880
  1EE13s-124898 1EE14s-124896 1EE15s-124907 1EE17s-124905 1EE18s-124904 1EE19s-124899
  1EE1As-124898 1EE1Bs-124897 1EE1Cs-124846 1EE1Ds-124771 1EE1Es-124797 1EE1Fs-124848 1EE20x
  1EE21s-124921 1EE22s-124918 1EE23x 1EE24s-124893 1EE25x 1EE27s-124922 1EE28x 1EE29s-124895
  1EE2As-124903 1EE2Es-124923 1EE2Fs-124918 1EE30s-124911 1EE31s-124924 1EE32s-124912 1EE33x
  1EE34s-124928 1EE35s-124939 1EE37s-124937 1EE38x 1EE39s-124931 1EE3Ax 1EE3Bs-124929 1EE3Cx
  1EE42s-124950 1EE43x 1EE47s-124954 1EE48x 1EE49s-124927 1EE4Ax 1EE4Bs-124935 1EE4Cx
  1EE4Ds-124935 1EE4Es-124955 1EE4Fs-124950 1EE50x 1EE51s-124956 1EE52s-124944 1EE53x
  1EE54s-124960 1EE55x 1EE57s-124969 1EE58x 1EE59s-124963 1EE5Ax 1EE5Bs-124961 1EE5Cx
  1EE5Ds-124835 1EE5Ex 1EE5Fs-124912 1EE60x 1EE61s-124985 1EE62s-124982 1EE63x 1EE64s-124957
  1EE65x 1EE67s-124986 1EE68s-124977 1EE69s-124959 1EE6As-124967 1EE6Bx 1EE6Cs-124967
  1EE6Es-124987 1EE6Fs-124982 1EE70s-124975 1EE71s-124988 1EE72s-124976 1EE73x 1EE74s-124992
  1EE75s-125003 1EE77s-125001 1EE78x 1EE79s-124995 1EE7As-124994 1EE7Bs-124993 1EE7Cs-124942
  1EE7Dx 1EE7Es-124893 1EE7Fx 1EE80s-125017 1EE82s-125014 1EE83s-125012 1EE84s-124989
  1EE86s-125012 1EE87s-125018 1EE88s-125009 1EE89s-124991 1EE8Ax 1EE8Bs-124999 1EE8Es-125019
  1EE8Fs-125014 1EE90s-125007 1EE91s-125020 1EE92s-125008 1EE93s-125026 1EE94s-125024
  1EE95s-125035 1EE97s-125033 1EE98s-125032 1EE99s-125027 1EE9As-125026 1EE9Bs-125025 1EE9Cx
  1EEA1s-125049 1EEA2s-125046 1EEA3s-125044 1EEA4x 1EEA5s-125021 1EEA6s-125044 1EEA7s-125050
  1EEA8s-125041 1EEA9s-125023 1EEAAx 1EEABs-125031 1EEAEs-125051 1EEAFs-125046 1EEB0s-125039
  1EEB1s-125052 1EEB2s-125040 1EEB3s-125058 1EEB4s-125056 1EEB5s-125067 1EEB7s-125065
  1EEB8s-125064 1EEB9s-125059 1EEBAs-125058 1EEBBs-125057 1EEBCx 1EEF0v 1EEF2x 1F000v 1F02Cx
  1F030v 1F094x 1F0A0v 1F0AFx 1F0B1v 1F0C0x 1F0C1v 1F0D0x 1F0D1v 1F0F6x 1F101m30.2C 1F102m31.2C
  1F103m32.2C 1F104m33.2C 1F105m34.2C 1F106m35.2C 1F107m36.2C 1F108m37.2C 1F109m38.2C 1F10Am39.2C
  1F10Bv 1F110m28.61.29 1F111m28.62.29 1F112m28.63.29 1F113m28.64.29 1F114m28.65.29 1F115m28.66.29
  1F116m28.67.29 1F117m28.68.29 1F118m28.69.29 1F119m28.6A.29 1F11Am28.6B.29 1F11Bm28.6C.29
  1F11Cm28.6D.29 1F11Dm28.6E.29 1F11Em28.6F.29 1F11Fm28.70.29 1F120m28.71.29 1F121m28.72.29
  1F122m28.73.29 1F123m28.74.29 1F124m28.75.29 1F125m28.76.29 1F126m28.77.29 1F127m28.78.29
  1F128m28.79.29 1F129m28.7A.29 1F12Am3014.73.3015 1F12Bs-127176 1F12Cs-127162 1F12Dm63.64
  1F12Em77.7A 1F12Fv 1F130s-127183 1F14Am68.76 1F14Bm6D.76 1F14Cm73.64 1F14Dm73.73 1F14Em70.70.76
  1F14Fm77.63 1F150v 1F16Am6D.63 1F16Bm6D.64 1F16Cm6D.72 1F16Dv 1F190m64.6A 1F191v 1F1AEx 1F1E6v
  1F200m307B.304B 1F201m30B3.30B3 1F202s-115021 1F203x 1F210s-102341 1F211s-104122 1F212s-106054
  1F213s-115020 1F214s-107400 1F215s-104699 1F216s-92211 1F217s-104686 1F218s-107380 1F219s-101369
  1F21As-98553 1F21Bs-101506 1F21Cs-106447 1F21Ds-103057 1F21Es-106641 1F21Fs-101487 1F220s-106499
  1F221s-95455 1F222s-97539 1F223s-91514 1F224s-104756 1F225s-105964 1F226s-99090 1F227s-102290
  1F228s-102099 1F229s-107561 1F22As-107553 1F22Bs-90593 1F22Cs-103494 1F22Ds-107520 1F22Es-106043
  1F22Fs-102184 1F230s-91328 1F231s-102366 1F232s-96433 1F233s-96185 1F234s-106028 1F235s-99253
  1F236s-101165 1F237s-101167 1F238s-97541 1F239s-106439 1F23As-105604 1F23Bs-90350 1F23Cx
  1F240m3014.672C.3015 1F241m3014.4E09.3015 1F242m3014.4E8C.3015 1F243m3014.5B89.3015
  1F244m3014.70B9.3015 1F245m3014.6253.3015 1F246m3014.76D7.3015 1F247m3014.52DD.3015
  1F248m3014.6557.3015 1F249x 1F250s-103097 1F251s-106082 1F252x 1F260v 1F266x 1F300v 1F6D9x
  1F6DCv 1F6EDx 1F6F0v 1F6FDx 1F700v 1F7DAx 1F7E0v 1F7ECx 1F7F0v 1F7F1x 1F800v 1F80Cx 1F810v
  1F848x 1F850v 1F85Ax 1F860v 1F888x 1F890v 1F8AEx 1F8B0v 1F8BCx 1F8C0v 1F8C2x 1F8D0v 1F8D9x
  1F900v 1FA58x 1FA60v 1FA6Ex 1FA70v 1FA7Dx 1FA80v 1FA8Bx 1FA8Ev 1FAC7x 1FAC8v 1FAC9x 1FACDv
  1FADDx 1FADFv 1FAEBx 1FAEFv 1FAF9x 1FB00v 1FB93x 1FB94v 1FBF0s-129984 1FBFAv 1FBFBx 20000v
  2A6E0x 2A700v 2B81Ex 2B820v 2CEAEx 2CEB0v 2EBE1x 2EBF0v 2EE5Ex 2F800s-174531 2F801s-174537
  2F802s-174529 2F803s-63201 2F804s-174244 2F805s-174167 2F806s-174155 2F807s-174085 2F808s-173966
  2F809s-173936 2F80As-173859 2F80Bs-173884 2F80Cs-181102 2F80Ds-61907 2F80Es-173761 2F80Fs-173755
  2F810s-173740 2F811s-173722 2F812s-62198 2F813s-181082 2F814s-173741 2F815s-173704 2F816s-62155
  2F817s-173696 2F818s-173684 2F819s-174413 2F81As-173678 2F81Bs-173670 2F81Cs-26173 2F81Ds-173608
  2F81Es-173595 2F81Fs-181056 2F820s-173541 2F821s-173531 2F822s-173488 2F823s-173484
  2F824s-181007 2F825s-173406 2F826s-173405 2F827s-173379 2F828s-173358 2F829s-173348
  2F82Bs-173332 2F82Cs-173283 2F82Ds-173276 2F82Es-173268 2F82Fs-173244 2F830s-173235 2F831m537F
  2F834s-60936 2F835s-165829 2F836s-173164 2F837s-173144 2F838s-60629 2F839s-173134 2F83As-173129
  2F83Bs-173109 2F83Cs-172958 2F83Ds-173061 2F83Es-173046 2F83Fs-173015 2F840s-172958
  2F841s-172875 2F842s-172850 2F843s-172784 2F844s-172769 2F845m5584 2F847s-172718 2F848s-172701
  2F849s-172694 2F84As-172680 2F84Bs-172341 2F84Cs-172614 2F84Ds-172342 2F84Es-172541
  2F84Fs-172507 2F850s-173641 2F851s-171875 2F852s-172164 2F853s-172127 2F854s-172103
  2F855s-172234 2F856s-172068 2F857s-172070 2F858s-171948 2F859s-58229 2F85As-171880 2F85Bs-171876
  2F85Cs-171862 2F85Ds-171843 2F85Es-171836 2F85Fs-171773 2F860s-57784 2F861s-57719 2F862s-171638
  2F863s-171592 2F864s-171581 2F865s-171661 2F866s-171520 2F867s-180601 2F868s-180588
  2F869s-171361 2F86Am5B3E 2F86Cs-56996 2F86Ds-171178 2F86Es-171158 2F86Fs-171144 2F870s-171133
  2F871s-56665 2F872s-171123 2F873s-171117 2F874s-170273 2F875s-171091 2F876s-180469 2F877s-171031
  2F878s-171018 2F879s-170937 2F87As-170989 2F87Bs-55959 2F87Cs-170809 2F87Ds-55959 2F87Es-170768
  2F87Fs-170772 2F880s-170756 2F881s-170656 2F883s-180308 2F884s-170631 2F885s-170589
  2F886s-170569 2F887s-170526 2F888s-180262 2F889s-55046 2F88As-180238 2F88Bs-170459 2F88Cs-170457
  2F88Ds-170455 2F88Es-170436 2F88Fs-21757 2F890s-170386 2F891m22331 2F893s-161426 2F894m5F22
  2F896s-180175 2F897s-50655 2F898s-38590 2F899s-170295 2F89As-170287 2F89Bs-180152 2F89Cs-170242
  2F89Ds-170192 2F89Es-170183 2F89Fs-170150 2F8A0s-170015 2F8A1s-180071 2F8A2s-180102
  2F8A3s-169999 2F8A4s-53712 2F8A5s-169950 2F8A6s-169822 2F8A7s-169819 2F8A8s-169818 2F8A9s-169821
  2F8AAs-169776 2F8ABs-169757 2F8ACs-169722 2F8ADs-169737 2F8AEs-169727 2F8AFs-169681
  2F8B0s-169662 2F8B1s-169659 2F8B2s-169634 2F8B3s-169624 2F8B4s-169559 2F8B5s-169476
  2F8B6s-169442 2F8B7s-169319 2F8B8s-52652 2F8B9s-169340 2F8BAs-169406 2F8BBs-169299 2F8BCs-169273
  2F8BDs-169177 2F8BEs-52429 2F8BFs-169117 2F8C0s-169211 2F8C1s-169240 2F8C2s-179860 2F8C3s-169050
  2F8C4s-169030 2F8C5s-169000 2F8C6s-169039 2F8C7s-179803 2F8C8s-168825 2F8C9s-168797 2F8CAs-51392
  2F8CBs-168680 2F8CCs-168404 2F8CDs-168580 2F8CEs-179637 2F8CFs-168510 2F8D0s-179656
  2F8D1s-179693 2F8D2s-173888 2F8D3s-173886 2F8D4s-168404 2F8D5s-168505 2F8D6s-161833
  2F8D7s-177406 2F8D8s-168385 2F8D9s-168382 2F8DAs-168377 2F8DBs-168317 2F8DCs-168329 2F8DDs-50458
  2F8DEs-179605 2F8DFs-168165 2F8E0s-168283 2F8E1s-168079 2F8E2s-168029 2F8E3s-50294 2F8E4s-168022
  2F8E5s-168134 2F8E6s-167890 2F8E7s-179530 2F8E8s-167846 2F8E9s-167750 2F8EAs-167680
  2F8EBs-167491 2F8ECs-49737 2F8EDs-167442 2F8EEs-179414 2F8EFs-167374 2F8F0s-49225 2F8F1s-167325
  2F8F2s-179364 2F8F3s-167297 2F8F4s-167253 2F8F5s-167227 2F8F7s-48746 2F8F8s-56301 2F8F9s-48639
  2F8FAs-167084 2F8FBs-48191 2F8FCs-166973 2F8FDs-166960 2F8FEs-167063 2F8FFs-166889 2F900s-166850
  2F901s-166794 2F902s-166849 2F903s-166810 2F904s-166796 2F905s-166784 2F906s-48104 2F907s-166867
  2F908s-166617 2F909s-166555 2F90As-179159 2F90Bs-166464 2F90Cs-166469 2F90Ds-47676 2F90Es-166677
  2F90Fs-166305 2F910s-47538 2F911s-47491 2F912s-166220 2F913s-166106 2F914s-166134 2F915s-166138
  2F916s-179072 2F917s-166093 2F918s-166043 2F919s-166050 2F91As-165997 2F91Bs-62454 2F91Cs-165847
  2F91Ds-46778 2F91Es-165762 2F91Fs-46452 2F920s-165624 2F921s-165612 2F922s-165586 2F923s-45851
  2F924s-165540 2F925s-165520 2F926s-45553 2F927s-45331 2F928s-165294 2F929s-165278 2F92As-178814
  2F92Bs-165254 2F92Cm3EB8 2F92Es-165095 2F92Fs-165075 2F930s-165055 2F931s-165036 2F932s-164968
  2F933s-178712 2F934s-164880 2F935s-44287 2F936s-164856 2F937s-44197 2F938s-164808 2F939s-55194
  2F93As-164650 2F93Bs-43418 2F93Cs-43396 2F93Ds-43257 2F93Es-178498 2F93Fs-178487 2F940s-164428
  2F941s-43086 2F942s-43088 2F943s-43050 2F944s-43025 2F945s-164391 2F946m771F 2F948s-164350
  2F949s-178448 2F94As-164287 2F94Bs-178437 2F94Cs-178358 2F94Ds-42288 2F94Es-164096 2F94Fs-164035
  2F950s-163972 2F951s-178286 2F952s-41772 2F953s-163837 2F954s-41658 2F955s-41616 2F956s-163783
  2F957s-163692 2F958s-178217 2F959s-163609 2F95As-163600 2F95Bs-163596 2F95Cs-40928 2F95Dm25AA7
  2F95Fs-163441 2F960s-178014 2F961s-40374 2F962s-163228 2F963s-163226 2F964s-177981 2F965s-40165
  2F966s-162964 2F967s-177863 2F968s-162944 2F969s-162950 2F96As-162922 2F96Bs-39397 2F96Cs-162825
  2F96Ds-177772 2F96Es-162727 2F96Fs-162669 2F970s-162603 2F971s-177725 2F972s-38730 2F973s-38700
  2F974s-177691 2F975s-38556 2F976s-162300 2F977s-38457 2F978s-162275 2F979s-162175 2F97As-162165
  2F97Bs-38049 2F97Cs-37977 2F97Ds-162077 2F97Es-37846 2F97Fs-162063 2F980s-50721 2F981s-177580
  2F982s-162000 2F983s-161920 2F984s-177529 2F985s-161863 2F986s-171729 2F987s-37344 2F988s-37331
  2F989s-50678 2F98As-50670 2F98Bs-161674 2F98Cs-161672 2F98Ds-158191 2F98Es-177443 2F98Fs-161534
  2F990s-161541 2F991s-161524 2F992s-173791 2F993s-161506 2F994s-161505 2F995s-161496
  2F996s-161456 2F997s-36443 2F998s-161459 2F999s-161404 2F99As-161335 2F99Bs-161262 2F99Cs-161401
  2F99Ds-161248 2F99Es-161207 2F99Fs-161096 2F9A0s-161357 2F9A1s-161239 2F9A2s-161238
  2F9A3s-161223 2F9A4s-36206 2F9A5s-35898 2F9A6s-36049 2F9A7s-177276 2F9A8s-160951 2F9A9s-160950
  2F9AAs-160916 2F9ABs-34273 2F9ACs-160840 2F9ADs-35457 2F9AEs-177233 2F9AFs-177230 2F9B0s-35327
  2F9B1s-35039 2F9B2s-177223 2F9B3s-160611 2F9B4s-160600 2F9B5s-160590 2F9B6s-160589 2F9B7s-160526
  2F9B8s-160560 2F9B9s-160427 2F9BAs-160472 2F9BBs-160322 2F9BCs-160404 2F9BDs-160338
  2F9BEs-160312 2F9BFs-177128 2F9C0s-160223 2F9C1s-160192 2F9C2s-177097 2F9C3s-160099
  2F9C4s-160097 2F9C5s-33630 2F9C6s-159983 2F9C7s-159977 2F9C8s-177043 2F9C9s-159951 2F9CAs-181519
  2F9CBs-33053 2F9CCs-32870 2F9CDs-176911 2F9CEs-176903 2F9CFs-159535 2F9D0s-159459 2F9D1s-159303
  2F9D2s-159101 2F9D3s-32043 2F9D4s-159017 2F9D5s-158996 2F9D6s-158907 2F9D7s-158816 2F9D8s-31401
  2F9D9s-61909 2F9DAs-158735 2F9DBs-158751 2F9DCs-158700 2F9DDs-61695 2F9DEs-158474 2F9DFs-158375
  2F9E0s-29710 2F9E1s-29684 2F9E2s-158030 2F9E3s-157938 2F9E4s-157907 2F9E5s-29367 2F9E6s-157899
  2F9E7s-157615 2F9E8s-157457 2F9EAs-157550 2F9EBs-157170 2F9ECs-157143 2F9EDs-28147 2F9EEs-156771
  2F9EFs-176218 2F9F0s-156729 2F9F1s-27770 2F9F2s-176140 2F9F3s-156464 2F9F4s-171074 2F9F5s-156370
  2F9F6s-26801 2F9F7s-26589 2F9F8s-176010 2F9F9s-176003 2F9FAs-156186 2F9FBs-26097 2F9FCs-175946
  2F9FDs-25959 2F9FEm980B 2FA00s-156119 2FA01s-25675 2FA02s-155936 2FA03s-175824 2FA04s-155867
  2FA05s-155742 2FA06s-155716 2FA07s-155657 2FA08s-175674 2FA09s-24281 2FA0As-155384 2FA0Bs-155083
  2FA0Cs-154895 2FA0Ds-175423 2FA0Es-175393 2FA0Fs-154792 2FA10s-22850 2FA11s-175385 2FA12s-22797
  2FA13s-22533 2FA14s-22403 2FA15s-154458 2FA16s-175296 2FA17s-154398 2FA18s-154394 2FA19s-154388
  2FA1As-154379 2FA1Bs-154373 2FA1Cs-154337 2FA1Ds-21533 2FA1Ex 30000v 3134Bx 31350v 3347Ax E0100i
  E01F0x"

/-- The rules of the mapping table, in order of code point. -/
def idnaMapping : Array IdnaEntry := ((words idnaMappingText).filterMap IdnaEntry.ofWord).toArray

/-- How a character is treated in domain names. -/
def idnaStatus (c : Char) : IdnaStatus :=
  match lastStartingAtMost idnaMapping (·.start) c.toNat with
  | some e => e.statusAt c.toNat
  | none => .disallowed

end Sift.Unicode
