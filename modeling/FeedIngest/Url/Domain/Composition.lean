import FeedIngest.Url.Domain.Marks

/-! One written form for letters with marks. A text is taken apart into bases and marks, the
marks of a base are put in the order of their classes, and what has a character of its own
is put together again. -/

namespace FeedIngest.Url.Domain

/-- The characters that stand for a pair: the distance to the one before, P, the pair. -/
def compositeRuns : Runs := .ofText "
    c0P41,300 1P41,301 1P41,302 1P41,303 1P41,308 1P41,30a 2P43,327 1P45,300 1P45,301 1P45,302
    1P45,308 1P49,300 1P49,301 1P49,302 1P49,308 2P4e,303 1P4f,300 1P4f,301 1P4f,302 1P4f,303
    1P4f,308 3P55,300 1P55,301 1P55,302 1P55,308 1P59,301 3P61,300 1P61,301 1P61,302 1P61,303
    1P61,308 1P61,30a 2P63,327 1P65,300 1P65,301 1P65,302 1P65,308 1P69,300 1P69,301 1P69,302
    1P69,308 2P6e,303 1P6f,300 1P6f,301 1P6f,302 1P6f,303 1P6f,308 3P75,300 1P75,301 1P75,302
    1P75,308 1P79,301 2P79,308 1P41,304 1P61,304 1P41,306 1P61,306 1P41,328 1P61,328 1P43,301
    1P63,301 1P43,302 1P63,302 1P43,307 1P63,307 1P43,30c 1P63,30c 1P44,30c 1P64,30c 3P45,304
    1P65,304 1P45,306 1P65,306 1P45,307 1P65,307 1P45,328 1P65,328 1P45,30c 1P65,30c 1P47,302
    1P67,302 1P47,306 1P67,306 1P47,307 1P67,307 1P47,327 1P67,327 1P48,302 1P68,302 3P49,303
    1P69,303 1P49,304 1P69,304 1P49,306 1P69,306 1P49,328 1P69,328 1P49,307 4P4a,302 1P6a,302
    1P4b,327 1P6b,327 2P4c,301 1P6c,301 1P4c,327 1P6c,327 1P4c,30c 1P6c,30c 5P4e,301 1P6e,301
    1P4e,327 1P6e,327 1P4e,30c 1P6e,30c 4P4f,304 1P6f,304 1P4f,306 1P6f,306 1P4f,30b 1P6f,30b
    3P52,301 1P72,301 1P52,327 1P72,327 1P52,30c 1P72,30c 1P53,301 1P73,301 1P53,302 1P73,302
    1P53,327 1P73,327 1P53,30c 1P73,30c 1P54,327 1P74,327 1P54,30c 1P74,30c 3P55,303 1P75,303
    1P55,304 1P75,304 1P55,306 1P75,306 1P55,30a 1P75,30a 1P55,30b 1P75,30b 1P55,328 1P75,328
    1P57,302 1P77,302 1P59,302 1P79,302 1P59,308 1P5a,301 1P7a,301 1P5a,307 1P7a,307 1P5a,30c
    1P7a,30c 22P4f,31b 1P6f,31b eP55,31b 1P75,31b 1dP41,30c 1P61,30c 1P49,30c 1P69,30c 1P4f,30c
    1P6f,30c 1P55,30c 1P75,30c 1Pdc,304 1Pfc,304 1Pdc,301 1Pfc,301 1Pdc,30c 1Pfc,30c 1Pdc,300
    1Pfc,300 2Pc4,304 1Pe4,304 1P226,304 1P227,304 1Pc6,304 1Pe6,304 3P47,30c 1P67,30c 1P4b,30c
    1P6b,30c 1P4f,328 1P6f,328 1P1ea,304 1P1eb,304 1P1b7,30c 1P292,30c 1P6a,30c 4P47,301 1P67,301
    3P4e,300 1P6e,300 1Pc5,301 1Pe5,301 1Pc6,301 1Pe6,301 1Pd8,301 1Pf8,301 1P41,30f 1P61,30f
    1P41,311 1P61,311 1P45,30f 1P65,30f 1P45,311 1P65,311 1P49,30f 1P69,30f 1P49,311 1P69,311
    1P4f,30f 1P6f,30f 1P4f,311 1P6f,311 1P52,30f 1P72,30f 1P52,311 1P72,311 1P55,30f 1P75,30f
    1P55,311 1P75,311 1P53,326 1P73,326 1P54,326 1P74,326 3P48,30c 1P68,30c 7P41,307 1P61,307
    1P45,327 1P65,327 1Pd6,304 1Pf6,304 1Pd5,304 1Pf5,304 1P4f,307 1P6f,307 1P22e,304 1P22f,304
    1P59,304 1P79,304 152Pa8,301 1P391,301 2P395,301 1P397,301 1P399,301 2P39f,301 2P3a5,301
    1P3a9,301 1P3ca,301 1aP399,308 1P3a5,308 1P3b1,301 1P3b5,301 1P3b7,301 1P3b9,301 1P3cb,301
    1aP3b9,308 1P3c5,308 1P3bf,301 1P3c5,301 1P3c9,301 5P3d2,301 1P3d2,308 2cP415,300 1P415,308
    2P413,301 4P406,308 5P41a,301 1P418,300 1P423,306 bP418,306 20P438,306 17P435,300 1P435,308
    2P433,301 4P456,308 5P43a,301 1P438,300 1P443,306 18P474,30f 1P475,30f 4aP416,306 1P436,306
    eP410,306 1P430,306 1P410,308 1P430,308 3P415,306 1P435,306 3P4d8,308 1P4d9,308 1P416,308
    1P436,308 1P417,308 1P437,308 3P418,304 1P438,304 1P418,308 1P438,308 1P41e,308 1P43e,308
    3P4e8,308 1P4e9,308 1P42d,308 1P44d,308 1P423,304 1P443,304 1P423,308 1P443,308 1P423,30b
    1P443,30b 1P427,308 1P447,308 3P42b,308 1P44b,308 129P627,653 1P627,654 1P648,654 1P627,655
    1P64a,654 9aP6d5,654 2P6c1,654 11P6d2,654 256P928,93c 8P930,93c 3P933,93c 97P9c7,9be 1P9c7,9d7
    17cPb47,b56 3Pb47,b3e 1Pb47,b57 48Pb92,bd7 36Pbc6,bbe 1Pbc7,bbe 1Pbc6,bd7 7cPc46,c56
    78Pcbf,cd5 7Pcc6,cd5 1Pcc6,cd6 2Pcc6,cc2 1Pcca,cd5 7fPd46,d3e 1Pd47,d3e 1Pd46,d57 8ePdd9,dca
    2Pdd9,dcf 1Pddc,dca 1Pdd9,ddf 248P1025,102e ae0P1b05,1b35 2P1b07,1b35 2P1b09,1b35 2P1b0b,1b35
    2P1b0d,1b35 4P1b11,1b35 29P1b3a,1b35 2P1b3c,1b35 3P1b3e,1b35 1P1b3f,1b35 2P1b42,1b35
    2bdP41,325 1P61,325 1P42,307 1P62,307 1P42,323 1P62,323 1P42,331 1P62,331 1Pc7,301 1Pe7,301
    1P44,307 1P64,307 1P44,323 1P64,323 1P44,331 1P64,331 1P44,327 1P64,327 1P44,32d 1P64,32d
    1P112,300 1P113,300 1P112,301 1P113,301 1P45,32d 1P65,32d 1P45,330 1P65,330 1P228,306
    1P229,306 1P46,307 1P66,307 1P47,304 1P67,304 1P48,307 1P68,307 1P48,323 1P68,323 1P48,308
    1P68,308 1P48,327 1P68,327 1P48,32e 1P68,32e 1P49,330 1P69,330 1Pcf,301 1Pef,301 1P4b,301
    1P6b,301 1P4b,323 1P6b,323 1P4b,331 1P6b,331 1P4c,323 1P6c,323 1P1e36,304 1P1e37,304 1P4c,331
    1P6c,331 1P4c,32d 1P6c,32d 1P4d,301 1P6d,301 1P4d,307 1P6d,307 1P4d,323 1P6d,323 1P4e,307
    1P6e,307 1P4e,323 1P6e,323 1P4e,331 1P6e,331 1P4e,32d 1P6e,32d 1Pd5,301 1Pf5,301 1Pd5,308
    1Pf5,308 1P14c,300 1P14d,300 1P14c,301 1P14d,301 1P50,301 1P70,301 1P50,307 1P70,307 1P52,307
    1P72,307 1P52,323 1P72,323 1P1e5a,304 1P1e5b,304 1P52,331 1P72,331 1P53,307 1P73,307 1P53,323
    1P73,323 1P15a,307 1P15b,307 1P160,307 1P161,307 1P1e62,307 1P1e63,307 1P54,307 1P74,307
    1P54,323 1P74,323 1P54,331 1P74,331 1P54,32d 1P74,32d 1P55,324 1P75,324 1P55,330 1P75,330
    1P55,32d 1P75,32d 1P168,301 1P169,301 1P16a,308 1P16b,308 1P56,303 1P76,303 1P56,323 1P76,323
    1P57,300 1P77,300 1P57,301 1P77,301 1P57,308 1P77,308 1P57,307 1P77,307 1P57,323 1P77,323
    1P58,307 1P78,307 1P58,308 1P78,308 1P59,307 1P79,307 1P5a,302 1P7a,302 1P5a,323 1P7a,323
    1P5a,331 1P7a,331 1P68,331 1P74,308 1P77,30a 1P79,30a 2P17f,307 5P41,323 1P61,323 1P41,309
    1P61,309 1Pc2,301 1Pe2,301 1Pc2,300 1Pe2,300 1Pc2,309 1Pe2,309 1Pc2,303 1Pe2,303 1P1ea0,302
    1P1ea1,302 1P102,301 1P103,301 1P102,300 1P103,300 1P102,309 1P103,309 1P102,303 1P103,303
    1P1ea0,306 1P1ea1,306 1P45,323 1P65,323 1P45,309 1P65,309 1P45,303 1P65,303 1Pca,301 1Pea,301
    1Pca,300 1Pea,300 1Pca,309 1Pea,309 1Pca,303 1Pea,303 1P1eb8,302 1P1eb9,302 1P49,309 1P69,309
    1P49,323 1P69,323 1P4f,323 1P6f,323 1P4f,309 1P6f,309 1Pd4,301 1Pf4,301 1Pd4,300 1Pf4,300
    1Pd4,309 1Pf4,309 1Pd4,303 1Pf4,303 1P1ecc,302 1P1ecd,302 1P1a0,301 1P1a1,301 1P1a0,300
    1P1a1,300 1P1a0,309 1P1a1,309 1P1a0,303 1P1a1,303 1P1a0,323 1P1a1,323 1P55,323 1P75,323
    1P55,309 1P75,309 1P1af,301 1P1b0,301 1P1af,300 1P1b0,300 1P1af,309 1P1b0,309 1P1af,303
    1P1b0,303 1P1af,323 1P1b0,323 1P59,300 1P79,300 1P59,323 1P79,323 1P59,309 1P79,309 1P59,303
    1P79,303 7P3b1,313 1P3b1,314 1P1f00,300 1P1f01,300 1P1f00,301 1P1f01,301 1P1f00,342 1P1f01,342
    1P391,313 1P391,314 1P1f08,300 1P1f09,300 1P1f08,301 1P1f09,301 1P1f08,342 1P1f09,342
    1P3b5,313 1P3b5,314 1P1f10,300 1P1f11,300 1P1f10,301 1P1f11,301 3P395,313 1P395,314 1P1f18,300
    1P1f19,300 1P1f18,301 1P1f19,301 3P3b7,313 1P3b7,314 1P1f20,300 1P1f21,300 1P1f20,301
    1P1f21,301 1P1f20,342 1P1f21,342 1P397,313 1P397,314 1P1f28,300 1P1f29,300 1P1f28,301
    1P1f29,301 1P1f28,342 1P1f29,342 1P3b9,313 1P3b9,314 1P1f30,300 1P1f31,300 1P1f30,301
    1P1f31,301 1P1f30,342 1P1f31,342 1P399,313 1P399,314 1P1f38,300 1P1f39,300 1P1f38,301
    1P1f39,301 1P1f38,342 1P1f39,342 1P3bf,313 1P3bf,314 1P1f40,300 1P1f41,300 1P1f40,301
    1P1f41,301 3P39f,313 1P39f,314 1P1f48,300 1P1f49,300 1P1f48,301 1P1f49,301 3P3c5,313 1P3c5,314
    1P1f50,300 1P1f51,300 1P1f50,301 1P1f51,301 1P1f50,342 1P1f51,342 2P3a5,314 2P1f59,300
    2P1f59,301 2P1f59,342 1P3c9,313 1P3c9,314 1P1f60,300 1P1f61,300 1P1f60,301 1P1f61,301
    1P1f60,342 1P1f61,342 1P3a9,313 1P3a9,314 1P1f68,300 1P1f69,300 1P1f68,301 1P1f69,301
    1P1f68,342 1P1f69,342 1P3b1,300 2P3b5,300 2P3b7,300 2P3b9,300 2P3bf,300 2P3c5,300 2P3c9,300
    4P1f00,345 1P1f01,345 1P1f02,345 1P1f03,345 1P1f04,345 1P1f05,345 1P1f06,345 1P1f07,345
    1P1f08,345 1P1f09,345 1P1f0a,345 1P1f0b,345 1P1f0c,345 1P1f0d,345 1P1f0e,345 1P1f0f,345
    1P1f20,345 1P1f21,345 1P1f22,345 1P1f23,345 1P1f24,345 1P1f25,345 1P1f26,345 1P1f27,345
    1P1f28,345 1P1f29,345 1P1f2a,345 1P1f2b,345 1P1f2c,345 1P1f2d,345 1P1f2e,345 1P1f2f,345
    1P1f60,345 1P1f61,345 1P1f62,345 1P1f63,345 1P1f64,345 1P1f65,345 1P1f66,345 1P1f67,345
    1P1f68,345 1P1f69,345 1P1f6a,345 1P1f6b,345 1P1f6c,345 1P1f6d,345 1P1f6e,345 1P1f6f,345
    1P3b1,306 1P3b1,304 1P1f70,345 1P3b1,345 1P3ac,345 2P3b1,342 1P1fb6,345 1P391,306 1P391,304
    1P391,300 2P391,345 5Pa8,342 1P1f74,345 1P3b7,345 1P3ae,345 2P3b7,342 1P1fc6,345 1P395,300
    2P397,300 2P397,345 1P1fbf,300 1P1fbf,301 1P1fbf,342 1P3b9,306 1P3b9,304 1P3ca,300 4P3b9,342
    1P3ca,342 1P399,306 1P399,304 1P399,300 3P1ffe,300 1P1ffe,301 1P1ffe,342 1P3c5,306 1P3c5,304
    1P3cb,300 2P3c1,313 1P3c1,314 1P3c5,342 1P3cb,342 1P3a5,306 1P3a5,304 1P3a5,300 2P3a1,314
    1Pa8,300 5P1f7c,345 1P3c9,345 1P3ce,345 2P3c9,342 1P1ff6,345 1P39f,300 2P3a9,300 2P3a9,345
    19eP2190,338 1P2192,338 13P2194,338 1fP21d0,338 1P21d4,338 1P21d2,338 35P2203,338 5P2208,338
    3P220b,338 18P2223,338 2P2225,338 1bP223c,338 3P2243,338 3P2245,338 2P2248,338 17P3d,338
    2P2261,338 bP224d,338 1P3c,338 1P3e,338 1P2264,338 1P2265,338 3P2272,338 1P2273,338 3P2276,338
    1P2277,338 7P227a,338 1P227b,338 3P2282,338 1P2283,338 3P2286,338 1P2287,338 23P22a2,338
    1P22a8,338 1P22a9,338 1P22ab,338 31P227c,338 1P227d,338 1P2291,338 1P2292,338 7P22b2,338
    1P22b3,338 1P22b4,338 1P22b5,338 d5fP304b,3099 2P304d,3099 2P304f,3099 2P3051,3099 2P3053,3099
    2P3055,3099 2P3057,3099 2P3059,3099 2P305b,3099 2P305d,3099 2P305f,3099 2P3061,3099
    3P3064,3099 2P3066,3099 2P3068,3099 7P306f,3099 1P306f,309a 2P3072,3099 1P3072,309a
    2P3075,3099 1P3075,309a 2P3078,3099 1P3078,309a 2P307b,3099 1P307b,309a 17P3046,3099
    aP309d,3099 eP30ab,3099 2P30ad,3099 2P30af,3099 2P30b1,3099 2P30b3,3099 2P30b5,3099
    2P30b7,3099 2P30b9,3099 2P30bb,3099 2P30bd,3099 2P30bf,3099 2P30c1,3099 3P30c4,3099
    2P30c6,3099 2P30c8,3099 7P30cf,3099 1P30cf,309a 2P30d2,3099 1P30d2,309a 2P30d5,3099
    1P30d5,309a 2P30d8,3099 1P30d8,309a 2P30db,3099 1P30db,309a 17P30a6,3099 3P30ef,3099
    1P30f0,3099 1P30f1,3099 1P30f2,3099 4P30fd,3099 df9cP11099,110ba 2P1109b,110ba fP110a5,110ba
    83P11131,11127 1P11132,11127 21cP11347,1133e 1P11347,11357 16fP114b9,114ba 1P114b9,114b0
    2P114b9,114bd fcP115b8,115af 1P115b9,115af 37dP11935,11930"

/-- The first of the syllables made of a consonant, a vowel and up to one more consonant. -/
def syllableBase : Nat := 0xac00

/-- The pair that a character stands for. -/
def pair? (c : Char) : Option (Char × Char) :=
  let n := c.toNat
  if syllableBase ≤ n ∧ n < syllableBase + 11172 then
    let k := n - syllableBase
    if k % 28 = 0 then
      some (Char.ofNat (0x1100 + k / 588), Char.ofNat (0x1161 + k % 588 / 28))
    else some (Char.ofNat (n - k % 28), Char.ofNat (0x11a7 + k % 28))
  else match compositeRuns.at? c with
    | some run =>
      match run.values with
      | [a, b] => if run.first = n then some (Char.ofNat a.toNat, Char.ofNat b.toNat) else none
      | _ => none
    | none => none

/-- The character that stands for a pair. -/
def composite? (a b : Char) : Option Char :=
  let x := a.toNat
  let y := b.toNat
  if 0x1100 ≤ x ∧ x < 0x1113 ∧ 0x1161 ≤ y ∧ y < 0x1176 then
    some (Char.ofNat (syllableBase + ((x - 0x1100) * 21 + (y - 0x1161)) * 28))
  else if syllableBase ≤ x ∧ x < syllableBase + 11172 ∧ (x - syllableBase) % 28 = 0 ∧
      0x11a7 < y ∧ y < 0x11c3 then
    some (Char.ofNat (x + (y - 0x11a7)))
  else (compositeRuns.find? (·.values = [(x : Int), (y : Int)])).map fun run => Char.ofNat run.first

/-- A character taken apart; its first part may be taken apart up to `depth` times. -/
def takeApart : (depth : Nat) → Char → List Char
  | 0, c => [c]
  | depth + 1, c =>
    match pair? c with
    | some (a, b) => takeApart depth a ++ [b]
    | none => [c]

/-- Puts a character behind a reversed text, a mark in front of those of greater class. -/
def insertMark (c : Char) : List Char → List Char
  | [] => [c]
  | r :: rs =>
    if combiningClass c ≠ 0 ∧ combiningClass c < combiningClass r then r :: insertMark c rs
    else c :: r :: rs

/-- Bases and marks, with the marks of each base in order. -/
def decomposed (cs : List Char) : List Char :=
  ((cs.flatMap (takeApart 4)).foldl (fun rs c => insertMark c rs) []).reverse

/-- What has been put together: finished text, reversed, then the last base and the marks
behind it, reversed, that did not join it. -/
structure Composing where
  finished : List Char
  base : Option Char
  marks : List Char

namespace Composing

/-- Whether a character sees the base, past the marks between them. -/
def sees (s : Composing) (c : Char) : Bool :=
  match s.marks with
  | [] => true
  | m :: _ => combiningClass m < combiningClass c

def flush (s : Composing) : List Char := s.marks ++ (s.base.toList ++ s.finished)

def push (s : Composing) (c : Char) : Composing :=
  match (if s.sees c then s.base.bind (composite? · c) else none) with
  | some whole => ⟨s.finished, some whole, s.marks⟩
  | none =>
    if combiningClass c = 0 then ⟨s.flush, some c, []⟩
    else ⟨s.finished, s.base, c :: s.marks⟩

end Composing

/-- The composed form of a text. -/
def composed (cs : List Char) : List Char :=
  ((decomposed cs).foldl Composing.push ⟨[], none, []⟩).flush.reverse

end FeedIngest.Url.Domain
