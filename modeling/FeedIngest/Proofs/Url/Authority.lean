import FeedIngest.Except
import FeedIngest.Proofs.Url.Parts

/-! Who serves a resource. Behind an authority the end of the text is left as it was, so a slash
that is added there is left too, and changes nothing else. Only where an at sign stands alone the
text is no authority any more. -/

namespace FeedIngest.Url

variable {kind : SchemeKind} {scheme : String} {cs ds rest : List Char}

theorem spanHost_concat (kind : SchemeKind) (inBrackets : Bool) (cs : List Char) :
    spanHost kind inBrackets (cs ++ ['/']) =
      ((spanHost kind inBrackets cs).1, (spanHost kind inBrackets cs).2 ++ ['/']) := by
  induction cs generalizing inBrackets with
  | nil => simp [spanHost, endsAuthority]
  | cons c cs ih =>
    rw [List.cons_append, spanHost, spanHost, ih]
    split <;> rfl

theorem spanHost_suffix (kind : SchemeKind) (inBrackets : Bool) (cs : List Char) :
    (spanHost kind inBrackets cs).2 <:+ cs := by
  induction cs generalizing inBrackets with
  | nil => exact List.suffix_refl _
  | cons c cs ih =>
    rw [spanHost]
    split
    · exact List.suffix_refl _
    · exact (ih _).trans (List.suffix_cons c cs)

theorem readPort_concat (cs : List Char) : readPort (cs ++ ['/']) =
    (readPort cs).map fun (number, rest) => (number, rest ++ ['/']) := by
  have stop : Digits.isDigit '/' = false := by decide
  unfold readPort
  rw [takeWhile_append_cons stop, dropWhile_append_cons stop]
  generalize cs.dropWhile Digits.isDigit = rest
  generalize cs.takeWhile Digits.isDigit = digits
  -- A slash at the end does not change whether the digits are followed by the end of the port.
  rcases rest with _ | ⟨c, rest⟩
  · rcases digits with _ | ⟨d, digits⟩
    · rfl
    · have slash : ['/', '\\', '?', '#'].contains '/' = true := by decide
      dsimp only [List.nil_append]
      rw [slash]
      dsimp only
      cases Digits.read? 65535 (d :: digits) <;> rfl
  · dsimp only [List.cons_append]
    split
    · rfl
    · rfl
    · split <;> rfl

theorem readPort_suffix {number : Option Nat} (h : readPort cs = .ok (number, rest)) :
    rest <:+ cs := by
  unfold readPort at h
  dsimp only at h
  split at h
  · cases h
  · cases h
    exact List.dropWhile_suffix _
  · split at h
    · cases h
      exact List.dropWhile_suffix _
    · cases h

/-- The host of a server. -/
def readHost (scheme : String) (cs : List Char) : Except Fault (Option Host) :=
  if kindOf scheme = .other then Host.readOwn cs
  else if cs = [] then .error .emptyHost
  else (Host.read cs).map some

/-- The port number behind a host, if it is not the usual one. -/
def readNumber (scheme : String) (host : Option Host) (cs : List Char) :
    Except Fault (Option Nat × List Char) :=
  match cs with
  | ':' :: rest =>
    if host.isNone then .error .emptyHost
    else (readPort rest).map fun (number, rest) =>
      (if number = defaultPort? scheme then none else number, rest)
  | _ => .ok (none, cs)

theorem readServer_eq (scheme : String) (cs : List Char) : readServer scheme cs =
    (readHost scheme (spanHost (kindOf scheme) false cs).1).bind fun host =>
      (readNumber scheme host (spanHost (kindOf scheme) false cs).2).map fun (number, rest) =>
        (host, number, rest) := by
  have behind (host : Option Host) (cs : List Char) :
      (match cs with
      | ':' :: rest =>
        if host.isNone then .error .emptyHost
        else do
          let (number, rest) ← readPort rest
          return (host, if number = defaultPort? scheme then none else number, rest)
      | _ => return (host, none, cs)) = (readNumber scheme host cs).map fun (number, rest) =>
        (host, number, rest) := by
    unfold readNumber
    split
    · split
      · rfl
      · cases readPort _ <;> rfl
    · rfl
  unfold readServer readHost
  generalize spanHost (kindOf scheme) false cs = span
  obtain ⟨hostText, rest⟩ := span
  dsimp only
  split
  · cases Host.readOwn hostText with
    | error fault => rfl
    | ok host => exact behind host rest
  · split
    · rfl
    · cases Host.read hostText with
      | error fault => rfl
      | ok host => exact behind (some host) rest

theorem readNumber_concat (scheme : String) (host : Option Host) (cs : List Char) :
    readNumber scheme host (cs ++ ['/']) =
      (readNumber scheme host cs).map fun (number, rest) => (number, rest ++ ['/']) := by
  rcases cs with _ | ⟨c, cs⟩
  · rfl
  · by_cases colon : c = ':'
    · subst colon
      change (if _ then _ else (readPort (cs ++ ['/'])).map _) = Except.map _ (if _ then _ else _)
      rw [readPort_concat]
      split
      · rfl
      · cases readPort cs <;> rfl
    · simp [readNumber, colon, Except.map]

theorem readNumber_suffix {host : Option Host} {number : Option Nat}
    (h : readNumber scheme host cs = .ok (number, rest)) : rest <:+ cs := by
  unfold readNumber at h
  split at h
  · split at h
    · cases h
    · obtain ⟨⟨number, rest⟩, read, ⟨⟩⟩ := map_eq_ok h
      exact (readPort_suffix read).trans (List.suffix_cons _ _)
  · cases h
    exact List.suffix_refl _

theorem readServer_concat (scheme : String) (cs : List Char) : readServer scheme (cs ++ ['/']) =
    (readServer scheme cs).map fun (host, number, rest) => (host, number, rest ++ ['/']) := by
  rw [readServer_eq, readServer_eq, spanHost_concat]
  cases readHost scheme _ with
  | error fault => rfl
  | ok host =>
    change Except.map _ _ = Except.map _ (Except.map _ _)
    rw [readNumber_concat]
    cases readNumber scheme host _ <;> rfl

theorem readServer_suffix {host : Option Host} {number : Option Nat}
    (h : readServer scheme cs = .ok (host, number, rest)) : rest <:+ cs := by
  rw [readServer_eq] at h
  obtain ⟨host, -, h⟩ := bind_eq_ok h
  obtain ⟨⟨number, rest⟩, read, ⟨⟩⟩ := map_eq_ok h
  exact (readNumber_suffix read).trans (spanHost_suffix _ _ _)

/-- The server of an authority, behind its user. -/
def readHosted (scheme : String) (user password cs : List Char) :
    Except Fault (Authority × List Char) :=
  (readServer scheme cs).bind fun (host, number, rest) =>
    if host.isNone ∧ (user ≠ [] ∨ password ≠ []) then .error .emptyHost
    else .ok (⟨user, password, host, number⟩, rest)

theorem readHosted_concat (scheme : String) (user password cs : List Char) :
    readHosted scheme user password (cs ++ ['/']) =
      (readHosted scheme user password cs).map fun (a, rest) => (a, rest ++ ['/']) := by
  unfold readHosted
  rw [readServer_concat]
  cases readServer scheme cs with
  | error fault => rfl
  | ok read =>
    change (if _ then _ else _) = Except.map _ (if _ then _ else _)
    split <;> rfl

theorem readHosted_suffix {user password : List Char} {a : Authority}
    (h : readHosted scheme user password cs = .ok (a, rest)) : rest <:+ cs := by
  obtain ⟨⟨host, number, rest⟩, read, h⟩ := bind_eq_ok h
  dsimp only at h
  split at h
  · cases h
  · cases h
    exact readServer_suffix read

/-- The user in front of the last at sign, and the password. -/
def userOf (cs : List Char) : List Char × List Char :=
  (escape inUserinfo (cs.takeWhile (· ≠ ':')), escape inUserinfo ((cs.dropWhile (· ≠ ':')).drop 1))

theorem readAuthority_eq (scheme : String) (cs : List Char) : readAuthority scheme cs =
    match splitUser (cs.takeWhile (!endsAuthority (kindOf scheme) ·)) with
    | none => readHosted scheme [] [] cs
    | some (user, server) =>
      if user = [] ∧ server = [] ∧ cs.dropWhile (!endsAuthority (kindOf scheme) ·) ≠ [] then
        .error .emptyHost
      else readHosted scheme (userOf user).1 (userOf user).2
        (server ++ cs.dropWhile (!endsAuthority (kindOf scheme) ·)) := by
  unfold readAuthority
  dsimp only
  cases splitUser (cs.takeWhile (!endsAuthority (kindOf scheme) ·)) with
  | none =>
    unfold readHosted
    cases readServer scheme cs with
    | error fault => rfl
    | ok read => exact (if_neg (by simp)).symm
  | some found =>
    obtain ⟨user, server⟩ := found
    dsimp only
    split <;> rfl

/-- A slash behind an authority, unless there is an at sign that stands alone. -/
theorem readAuthority_concat {a : Authority}
    (h : readAuthority scheme (cs ++ ['/']) = .ok (a, ds)) :
    ∃ rest, readAuthority scheme cs = .ok (a, rest) ∧ ds = rest ++ ['/'] := by
  have stop : (!endsAuthority (kindOf scheme) '/') = false := rfl
  rw [readAuthority_eq, takeWhile_append_cons stop, dropWhile_append_cons stop] at h
  rw [readAuthority_eq]
  cases hu : splitUser (cs.takeWhile (!endsAuthority (kindOf scheme) ·)) with
  | none =>
    rw [hu] at h
    dsimp only at h
    rw [readHosted_concat] at h
    obtain ⟨⟨a, rest⟩, read, ⟨⟩⟩ := map_eq_ok h
    exact ⟨rest, read, rfl⟩
  | some found =>
    obtain ⟨user, server⟩ := found
    rw [hu] at h
    dsimp only at h
    split at h
    · cases h
    · next alone =>
      rw [← List.append_assoc, readHosted_concat] at h
      obtain ⟨⟨a, rest⟩, read, ⟨⟩⟩ := map_eq_ok h
      refine ⟨rest, ?_, rfl⟩
      dsimp only
      rw [if_neg fun all => alone ⟨all.1, all.2.1, by simp⟩, read]

/-- Behind the scheme of a web address there has to be a host. -/
theorem readAuthority_nil (web : kindOf scheme = .web) :
    readAuthority scheme [] = .error .emptyHost := by
  rw [readAuthority_eq]
  change readHosted scheme [] [] [] = _
  rw [readHosted, readServer_eq, readHost, web]
  rfl

theorem splitUser_suffix {user server : List Char} (h : splitUser cs = some (user, server)) :
    server <:+ cs := by
  unfold splitUser at h
  dsimp only at h
  split at h
  · cases h
  · cases h
    rw [← List.reverse_prefix, List.reverse_reverse]
    exact List.takeWhile_prefix _

theorem readAuthority_suffix {a : Authority} (h : readAuthority scheme cs = .ok (a, rest)) :
    rest <:+ cs := by
  rw [readAuthority_eq] at h
  cases hu : splitUser (cs.takeWhile (!endsAuthority (kindOf scheme) ·)) with
  | none =>
    rw [hu] at h
    exact readHosted_suffix h
  | some found =>
    obtain ⟨user, server⟩ := found
    rw [hu] at h
    dsimp only at h
    split at h
    · cases h
    · obtain ⟨front, whole⟩ := splitUser_suffix hu
      refine (readHosted_suffix h).trans ⟨front, ?_⟩
      rw [← List.append_assoc, whole, List.takeWhile_append_dropWhile]

theorem readFileHost_concat (cs : List Char) : readFileHost (cs ++ ['/']) =
    (readFileHost cs).map fun (host, rest) => (host, rest ++ ['/']) := by
  have stop : (!endsAuthority .file '/') = false := rfl
  unfold readFileHost
  rw [takeWhile_append_cons stop, dropWhile_append_cons stop]
  generalize cs.takeWhile (!endsAuthority .file ·) = text
  dsimp only
  split
  · rfl
  · split
    · rfl
    · split <;> rfl

theorem readFileHost_suffix {host : Option Host} (h : readFileHost cs = .ok (host, rest)) :
    rest <:+ cs := by
  unfold readFileHost at h
  dsimp only at h
  split at h
  · cases h
    exact List.dropWhile_suffix _
  · split at h
    · cases h
      exact List.suffix_refl _
    · split at h
      · cases h
      · cases h
        exact List.dropWhile_suffix _

end FeedIngest.Url
