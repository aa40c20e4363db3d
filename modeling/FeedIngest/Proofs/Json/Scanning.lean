import FeedIngest.Proofs.Json.Numbers

/-! What reading and skipping accept. A string that has been read was spelled so, one that has been
skipped is made of pieces, an integer that has been read was written in decimal without a leading
zero, and a number that has been skipped is one of the grammar. What follows is left unread. -/

namespace FeedIngest.Json

open Digits

/-! ### Whitespace -/

/-- What is skipped is whitespace. -/
theorem exists_skipGap (cs : List Char) : ∃ g, Gap g ∧ cs = g ++ skipGap cs := by
  refine ⟨cs.takeWhile isGap, ?_, List.takeWhile_append_dropWhile.symm⟩
  intro c hc
  exact isGap_iff.1 (List.mem_takeWhile_imp hc)

theorem exists_of_skipGap {cs ds : List Char} (h : skipGap cs = ds) : ∃ g, Gap g ∧ cs = g ++ ds :=
  h ▸ exists_skipGap cs

theorem gap_of_skipGap {cs : List Char} (h : skipGap cs = []) : Gap cs := by
  obtain ⟨g, hg, hc⟩ := exists_of_skipGap h
  rw [hc, List.append_nil]
  exact hg

theorem Gap.append {g g' : List Char} (h : Gap g) (h' : Gap g') : Gap (g ++ g') :=
  List.forall_mem_append.2 ⟨h, h'⟩

/-- A word that has been read stands there. -/
theorem eq_of_readWord {word cs rest : List Char} (h : readWord word cs = .ok rest) :
    cs = word ++ rest := by
  fun_induction readWord word cs with
  | case1 => cases h; rfl
  | case2 => cases h
  | case3 _ _ _ ih => rw [ih h]; rfl
  | case4 => cases h

/-! ### Escapes -/

theorem isHex_of_hex? {c : Char} {n : Nat} (h : hex? c = some n) : IsHex n c := by
  have le {d : Char} (h : c ≤ d) : c.toNat ≤ d.toNat := h
  have small : c.toNat < 128 := by
    unfold hex? at h
    split at h
    case isTrue hc => exact Nat.lt_of_le_of_lt (le hc.2) (by decide)
    split at h
    case isTrue hc => exact Nat.lt_of_le_of_lt (le hc.2) (by decide)
    split at h
    case isTrue hc => exact Nat.lt_of_le_of_lt (le hc.2) (by decide)
    cases h
  have own : ∀ n ∈ hex? c, IsHex n c := by
    apply Digits.of_forall_code small
    decide
  exact own n h

theorem quad_of_hexQuad? {a b c d : Char} {n : Nat} (h : hexQuad? a b c d = some n) :
    Quad n [a, b, c, d] := by
  simp only [hexQuad?, Option.bind_eq_bind, Option.bind_eq_some_iff, Option.pure_def,
    Option.some.injEq] at h
  obtain ⟨k, hk, l, hl, m, hm, j, hj, rfl⟩ := h
  exact .mk (isHex_of_hex? hk) (isHex_of_hex? hl) (isHex_of_hex? hm) (isHex_of_hex? hj)

theorem mem_of_letterEscape? {e c : Char} (h : letterEscape? e = some c) : (e, c) ∈ escapes := by
  unfold letterEscape? at h
  repeat' split at h
  all_goals first | (subst_vars; cases h; decide) | cases h

theorem toNat_ofNat {n : Nat} (h : n.isValidChar) : (Char.ofNat n).toNat = n := by
  rw [Char.ofNat, dif_pos h]
  rfl

/-- A number of 16 bits that is no surrogate is the unit of its character. -/
theorem units_ofNat {n : Nat} (small : n < 0x10000) (notLeading : ¬ isLeading n = true)
    (notTrailing : ¬ isTrailing n = true) : units (Char.ofNat n) = [n] := by
  have valid : n.isValidChar := by
    simp only [isLeading, isTrailing, Bool.and_eq_true, decide_eq_true_eq] at notLeading notTrailing
    unfold Nat.isValidChar
    omega
  rw [units, toNat_ofNat valid, if_pos small]

/-- Two surrogates are the units of the character that they make. -/
theorem units_pairedChar {m n : Nat} (leading : isLeading m = true) (trailing : isTrailing n = true) :
    units (pairedChar m n) = [m, n] := by
  simp only [isLeading, isTrailing, Bool.and_eq_true, decide_eq_true_eq] at leading trailing
  have valid : (0x10000 + (m - 0xD800) * 0x400 + (n - 0xDC00)).isValidChar := by
    unfold Nat.isValidChar
    omega
  have high : 0xD800 + (0x10000 + (m - 0xD800) * 0x400 + (n - 0xDC00) - 0x10000) / 0x400 = m := by
    omega
  have low : 0xDC00 + (0x10000 + (m - 0xD800) * 0x400 + (n - 0xDC00) - 0x10000) % 0x400 = n := by
    omega
  rw [units, pairedChar, toNat_ofNat valid, if_neg (by omega), high, low]

/-! ### Strings -/

/-- A text begins with a string in some spelling, up to the closing quote. -/
def Decodes (before : List Char) (s : String) (cs rest : List Char) : Prop :=
  ∃ t u, Spelled t u ∧ cs = u ++ '"' :: rest ∧ s = String.ofList (before.reverse ++ t)

theorem Decodes.cons {c : Char} {before v cs rest : List Char} {s : String} (hc : Spelling c v)
    (h : Decodes (c :: before) s cs rest) : Decodes before s (v ++ cs) rest := by
  obtain ⟨t, u, spelled, rfl, rfl⟩ := h
  refine ⟨c :: t, v ++ u, .cons hc spelled, ?_, ?_⟩
  · rw [List.append_assoc]
  · rw [List.reverse_cons, List.append_assoc]
    rfl

theorem decodes_of_readText {before cs rest : List Char} {s : String}
    (h : readText before cs = .ok (s, rest)) : Decodes before s cs rest := by
  fun_induction readText before cs with
  | case2 =>
    cases h
    exact ⟨[], [], .nil, rfl, by rw [List.append_nil]⟩
  | case11 before _ _ _ _ m high _ leading _ slash _ letter _ _ _ _ rest' n low trailing _ ih =>
    obtain rfl := Decidable.not_not.1 slash
    obtain rfl := Decidable.not_not.1 letter
    exact Decodes.cons (.pair (units_pairedChar leading trailing) (quad_of_hexQuad? high)
      (quad_of_hexQuad? low)) (ih h)
  | case14 before _ _ _ _ _ n value notTrailing notLeading _ ih =>
    have quad := quad_of_hexQuad? value
    exact Decodes.cons (.unit (units_ofNat quad.lt notLeading notTrailing) quad) (ih h)
  | case16 before e rest _ c escape _ ih =>
    exact Decodes.cons (v := ['\\', e]) (.letter (mem_of_letterEscape? escape)) (ih h)
  | case19 before c rest notQuote notSlash printable ih =>
    exact Decodes.cons (v := [c]) (.plain ⟨Char.not_lt.1 printable, notQuote, notSlash⟩) (ih h)
  | _ => cases h

/-- What has been read as a string is a spelling of it, and the closing quote. -/
theorem spelled_of_readText {cs rest : List Char} {s : String}
    (h : readText [] cs = .ok (s, rest)) : ∃ u, Spelled s.toList u ∧ cs = u ++ '"' :: rest := by
  obtain ⟨t, u, spelled, hc, rfl⟩ := decodes_of_readText h
  rw [List.reverse_nil, List.nil_append, String.toList_ofList]
  exact ⟨u, spelled, hc⟩

theorem Pieces.exists_cons {t cs rest : List Char} (h : Piece t)
    (hs : ∃ u, Pieces u ∧ cs = u ++ '"' :: rest) : ∃ u, Pieces u ∧ t ++ cs = u ++ '"' :: rest := by
  obtain ⟨u, hu, rfl⟩ := hs
  exact ⟨t ++ u, .cons h hu, (List.append_assoc _ _ _).symm⟩

theorem pieces_of_skipText {cs rest : List Char} (h : skipText cs = .ok rest) :
    ∃ u, Pieces u ∧ cs = u ++ '"' :: rest := by
  fun_induction skipText cs with
  | case2 =>
    cases h
    exact ⟨[], .nil, rfl⟩
  | case4 _ _ _ _ _ value _ ih =>
    obtain ⟨n, value⟩ := Option.isSome_iff_exists.1 value
    exact Pieces.exists_cons (.unit (quad_of_hexQuad? value)) (ih h)
  | case7 e _ _ value _ ih =>
    obtain ⟨c, value⟩ := Option.isSome_iff_exists.1 value
    exact Pieces.exists_cons (t := ['\\', e])
      (.letter (List.mem_map.2 ⟨_, mem_of_letterEscape? value, rfl⟩)) (ih h)
  | case10 c _ notQuote notSlash printable ih =>
    exact Pieces.exists_cons (t := [c]) (.plain ⟨Char.not_lt.1 printable, notQuote, notSlash⟩) (ih h)
  | _ => cases h

theorem readString_eq_ok {cs rest : List Char} {s : String} (h : readString cs = .ok (s, rest)) :
    ∃ g u, Gap g ∧ Spelled s.toList u ∧ cs = g ++ ('"' :: (u ++ ['"']) ++ rest) := by
  unfold readString at h
  split at h
  case h_1 => cases h
  case h_2 c ds skipped =>
    obtain ⟨g, hg, rfl⟩ := exists_of_skipGap skipped
    split at h
    case isTrue quote =>
      obtain ⟨u, spelled, rfl⟩ := spelled_of_readText h
      refine ⟨g, u, hg, spelled, ?_⟩
      rw [quote, List.cons_append, List.append_assoc]
      rfl
    case isFalse => cases h

/-! ### Integers -/

theorem toList_toString_natCast (n : Nat) : (toString (n : Int)).toList = write n := by
  show (Nat.repr n).toList = _
  simp [write]

theorem toList_toString_neg {n : Nat} (h : 0 < n) :
    (toString (-(n : Int))).toList = '-' :: write n := by
  obtain ⟨m, rfl⟩ := Nat.exists_eq_succ_of_ne_zero (Nat.ne_of_gt h)
  show ("-" ++ Nat.repr (m + 1)).toList = _
  simp [write]

theorem value_natural (n : Nat) : Value (toString n).toList := by
  have text : (toString n).toList = write n := toList_toString_natCast n
  rw [text]
  exact .number (unsigned_write n)

theorem value_integer (i : Int) : Value (toString i).toList := by
  obtain ⟨n, rfl | rfl⟩ := i.eq_nat_or_neg
  · exact value_natural n
  · cases n with
    | zero => exact value_natural 0
    | succ n =>
      rw [toList_toString_neg (Nat.succ_pos n)]
      exact .negative (unsigned_write (n + 1))

/-- What is gathered are digits, and they are of that number. -/
theorem exists_gather (n taken : Nat) (cs : List Char) :
    ∃ ds, cs = ds ++ (gather n taken cs).2.2 ∧ extend? n ds = some (gather n taken cs).1 := by
  fun_induction gather n taken cs with
  | case1 => exact ⟨[], rfl, rfl⟩
  | case2 => exact ⟨[], rfl, rfl⟩
  | case3 _ _ c cs d value _ ih =>
    obtain ⟨ds, hc, value'⟩ := ih
    refine ⟨c :: ds, congrArg (c :: ·) hc, ?_⟩
    rw [extend?_cons, value]
    exact value'
  | case4 => exact ⟨[], rfl, rfl⟩

theorem signed_ne_integer {negative : Bool} {size : Option Float} {cs rest : List Char} {i : Int} :
    signed negative size cs ≠ .ok (.integer i, rest) := by
  intro h
  cases size <;> cases h

theorem readExponent_ne_integer {negative : Bool} {s : Nat} {e : Int} {cs rest : List Char}
    {i : Int} : readExponent negative s e cs ≠ .ok (.integer i, rest) := by
  intro h
  unfold readExponent at h
  split at h
  · cases h
  · split at h
    · split at h
      · exact signed_ne_integer h
      · split at h
        · cases h
        · exact signed_ne_integer h
    · cases h

theorem readScaled_ne_integer {negative : Bool} {s : Nat} {e : Int} {cs rest : List Char}
    {i : Int} : readScaled negative s e cs ≠ .ok (.integer i, rest) := by
  intro h
  cases cs with
  | nil => exact signed_ne_integer h
  | cons c cs =>
    rw [readScaled] at h
    split at h
    · exact readExponent_ne_integer h
    · exact signed_ne_integer h

theorem readFraction_ne_integer {negative : Bool} {s : Nat} {e : Int} {cs rest : List Char}
    {i : Int} : readFraction negative s e cs ≠ .ok (.integer i, rest) := by
  intro h
  rw [readFraction] at h
  dsimp only at h
  split at h
  · exact readScaled_ne_integer h
  · split at h
    · cases h
    · exact readScaled_ne_integer h

/-- A number with a fraction or exponent is no integer. -/
theorem readFloat_ne_integer {negative : Bool} {s : Nat} {e : Int} {cs rest : List Char}
    {i : Int} : readFloat negative s e cs ≠ .ok (.integer i, rest) := by
  intro h
  cases cs with
  | nil => exact signed_ne_integer h
  | cons c cs =>
    rw [readFloat] at h
    split at h
    · exact readFraction_ne_integer h
    · exact readScaled_ne_integer h

/-- The integer of a number without its sign. -/
def Signed (negative : Bool) (n : Nat) (i : Int) : Prop :=
  if negative then 0 < n ∧ i = -n else i = n

theorem readShort_eq_integer {negative : Bool} {n : Nat} {cs rest : List Char} {i : Int}
    (h : readShort negative n cs = .ok (.integer i, rest)) : cs = rest ∧ Signed negative n i := by
  unfold readShort at h
  split at h
  · exact absurd h readFloat_ne_integer
  cases negative with
  | false => cases h; exact ⟨rfl, rfl⟩
  | true =>
    rw [if_neg (by decide)] at h
    split at h
    case isTrue small => cases h; exact ⟨rfl, small.1, rfl⟩
    case isFalse => exact absurd h signed_ne_integer

/-- An integer that has been read is written without a leading zero. -/
theorem readNumber_eq_integer {negative : Bool} {cs rest : List Char} {i : Int}
    (h : readNumber negative cs = .ok (.integer i, rest)) :
    ∃ n, cs = write n ++ rest ∧ Signed negative n i := by
  unfold readNumber at h
  split at h
  case h_1 => cases h
  case h_2 c ds =>
    split at h
    case isTrue zero =>
      split at h
      · cases h
      · obtain ⟨rfl, value⟩ := readShort_eq_integer h
        exact ⟨0, by rw [zero]; rfl, value⟩
    case isFalse notZero =>
      split at h
      case isFalse => cases h
      case isTrue digit =>
        have gathered := exists_gather 0 0 (c :: ds)
        generalize gather 0 0 (c :: ds) = g at h gathered
        obtain ⟨n, taken, behind⟩ := g
        obtain ⟨ws, hc, value⟩ := gathered
        dsimp only at h hc value
        split at h
        case isTrue => exact absurd h readFloat_ne_integer
        case isFalse stops =>
          obtain ⟨rfl, signed⟩ := readShort_eq_integer h
          -- At least the first digit has been gathered.
          cases ws with
          | nil =>
            rw [List.nil_append] at hc
            rw [← hc] at stops
            exact absurd digit stops
          | cons w ws =>
            cases hc
            have lead : (c :: ws).head? ≠ some '0' := fun e => notZero (Option.some.inj e)
            obtain ⟨written, -⟩ := write_of_extend? value (List.cons_ne_nil c ws) lead
            exact ⟨n, by rw [written]; rfl, signed⟩

/-- An integer that has been read stands there in decimal, and is in range. -/
theorem IntegerType.read_eq_ok {t : IntegerType} {cs rest : List Char} {i : Int}
    (h : t.read cs = .ok (i, rest)) : ∃ g, Gap g ∧ cs = g ++ ((toString i).toList ++ rest) ∧
      t.least ≤ i ∧ i ≤ t.greatest := by
  have accepted {n : Number} {ds : List Char} (h : t.accept n ds = .ok (i, rest)) :
      n = .integer i ∧ ds = rest ∧ t.least ≤ i ∧ i ≤ t.greatest := by
    unfold IntegerType.accept at h
    split at h
    · split at h
      case isTrue range => cases h; exact ⟨rfl, rfl, range⟩
      case isFalse => cases h
    · cases h
  unfold IntegerType.read at h
  split at h
  case h_1 => cases h
  case h_2 c ds skipped =>
    obtain ⟨g, hg, rfl⟩ := exists_of_skipGap skipped
    refine ⟨g, hg, ?_⟩
    split at h
    case isTrue minus =>
      split at h
      case h_1 => cases h
      case h_2 n ds number =>
        obtain ⟨rfl, rfl, range⟩ := accepted h
        obtain ⟨n, rfl, pos, rfl⟩ := readNumber_eq_integer number
        rw [toList_toString_neg pos, minus]
        exact ⟨rfl, range⟩
    case isFalse =>
      split at h
      case isFalse => cases h
      case isTrue =>
        split at h
        case h_1 => cases h
        case h_2 n ds number =>
          obtain ⟨rfl, rfl, range⟩ := accepted h
          obtain ⟨n, hc, rfl⟩ := readNumber_eq_integer number
          rw [toList_toString_natCast, hc]
          exact ⟨rfl, range⟩

/-- A value that may be null is null, or stands behind the whitespace. -/
theorem readOptional_eq_ok {α : Type} {read : List Char → Except Failure (α × List Char)}
    {cs rest : List Char} {o : Option α} (h : readOptional read cs = .ok (o, rest)) :
    (o = none ∧ ∃ g, Gap g ∧ cs = g ++ (['n', 'u', 'l', 'l'] ++ rest)) ∨
      ∃ a, o = some a ∧ read (skipGap cs) = .ok (a, rest) := by
  unfold readOptional at h
  split at h
  case h_1 ds skipped =>
    obtain ⟨g, hg, rfl⟩ := exists_of_skipGap skipped
    obtain ⟨r, word, e⟩ := map_eq_ok h
    cases e
    exact .inl ⟨rfl, g, hg, by rw [eq_of_readWord word]; rfl⟩
  case h_2 =>
    obtain ⟨⟨a, r⟩, value, e⟩ := map_eq_ok h
    cases e
    exact .inr ⟨a, rfl, value⟩

/-! ### Numbers -/

theorem exists_dropDigits (cs : List Char) :
    ∃ ds, (∀ c ∈ ds, IsDecimal c) ∧ cs = ds ++ dropDigits cs := by
  refine ⟨cs.takeWhile isDigit, ?_, List.takeWhile_append_dropWhile.symm⟩
  intro c hc
  exact isDigit_iff.1 (List.mem_takeWhile_imp hc)

/-- Where a digit comes first, all the digits are a digit string. -/
theorem exists_digitstring {cs : List Char} (h : startsWithDigit cs = true) :
    ∃ ds, Digitstring ds ∧ cs = ds ++ dropDigits cs := by
  obtain ⟨ds, digits, hc⟩ := exists_dropDigits cs
  refine ⟨ds, ⟨?_, digits⟩, hc⟩
  rintro rfl
  cases cs with
  | nil => cases h
  | cons c cs =>
    have dropped : dropDigits (c :: cs) = dropDigits cs := List.dropWhile_cons_of_pos h
    have := length_dropDigits cs
    rw [List.nil_append, dropped] at hc
    rw [← hc, List.length_cons] at this
    omega

theorem exists_exponentSign (cs : List Char) :
    ∃ sign ∈ [[], ['+'], ['-']], cs = sign ++ (exponentSign cs).2 := by
  unfold exponentSign
  split
  · exact ⟨['+'], by decide, rfl⟩
  · exact ⟨['-'], by decide, rfl⟩
  · exact ⟨[], by decide, rfl⟩

theorem exponent_of_skipScaled {cs rest : List Char} (h : skipScaled cs = .ok rest) :
    ∃ e, Exponent e ∧ cs = e ++ rest := by
  unfold skipScaled at h
  split at h
  case h_1 => cases h; exact ⟨[], .none, rfl⟩
  case h_2 c ds =>
    split at h
    case isFalse => cases h; exact ⟨[], .none, rfl⟩
    case isTrue letter =>
      unfold skipExponent at h
      dsimp only at h
      split at h
      case isFalse => cases h
      case isTrue digit =>
        cases h
        obtain ⟨sign, hs, hd⟩ := exists_exponentSign ds
        obtain ⟨digits, string, he⟩ := exists_digitstring digit
        refine ⟨c :: (sign ++ digits), .digits sign digits letter hs string, ?_⟩
        rw [List.cons_append, List.append_assoc, ← he, ← hd]

theorem fraction_of_skipFraction {cs rest : List Char} (h : skipFraction cs = .ok rest) :
    ∃ f e, Fraction f ∧ Exponent e ∧ cs = f ++ (e ++ rest) := by
  unfold skipFraction at h
  split at h
  case h_1 => cases h; exact ⟨[], [], .none, .none, rfl⟩
  case h_2 c ds =>
    split at h
    case isFalse =>
      obtain ⟨e, he, hc⟩ := exponent_of_skipScaled h
      exact ⟨[], e, .none, he, hc⟩
    case isTrue point =>
      split at h
      case isFalse => cases h
      case isTrue digit =>
        obtain ⟨digits, string, hd⟩ := exists_digitstring digit
        obtain ⟨e, he, hc⟩ := exponent_of_skipScaled h
        refine ⟨'.' :: digits, e, .digits string, he, ?_⟩
        rw [point, List.cons_append, ← hc, ← hd]

/-- A number that has been skipped is one of the grammar. -/
theorem unsigned_of_skipNumber {cs rest : List Char} (h : skipNumber cs = .ok rest) :
    ∃ u, Unsigned u ∧ cs = u ++ rest := by
  unfold skipNumber at h
  split at h
  case h_1 => cases h
  case h_2 c ds =>
    split at h
    case isTrue zero =>
      split at h
      case isTrue => cases h
      case isFalse =>
        obtain ⟨f, e, hf, he, rfl⟩ := fraction_of_skipFraction h
        refine ⟨['0'] ++ (f ++ e), .mk .zero hf he, ?_⟩
        rw [zero, List.append_assoc, List.append_assoc]
        rfl
    case isFalse notZero =>
      split at h
      case isFalse => cases h
      case isTrue digit =>
        obtain ⟨digits, all, hd⟩ := exists_dropDigits ds
        obtain ⟨f, e, hf, he, hc⟩ := fraction_of_skipFraction h
        have whole : Whole (c :: digits) :=
          .digits notZero ⟨List.cons_ne_nil c digits,
            List.forall_mem_cons.2 ⟨isDigit_iff.1 digit, all⟩⟩
        refine ⟨(c :: digits) ++ (f ++ e), .mk whole hf he, ?_⟩
        rw [List.append_assoc, List.append_assoc, ← hc, List.cons_append, ← hd]

end FeedIngest.Json
