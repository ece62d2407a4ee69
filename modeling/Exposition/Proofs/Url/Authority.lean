import Exposition.Url.Parser
import Exposition.Proofs.Url.Domain
import Exposition.Proofs.Url.Percent

/-!
# Proofs/Url/Authority — hosts and ports

What it takes for credentials, host and port to be read (`parseAuthority_eq_ok`), and that they are
never read from a text with a control or a space at its end (`not_parseAuthority_of_blank`): it
would be the end of a port, which is digits only, or of a host, which holds no such character.
-/

namespace Exposition.Url

open Text

/-! ## Hosts -/

section Blank

variable {c : Char}

theorem hexValue_of_isC0OrSpace (blank : isC0OrSpace c) : hexValue c = none := by
  simp only [isC0OrSpace, decide_eq_true_eq] at blank
  simp only [hexValue, Bool.and_eq_true, decide_eq_true_eq]
  rw [if_neg (by omega), if_neg (by omega), if_neg (by omega)]

theorem isForbiddenInDomain_of_isC0OrSpace (blank : isC0OrSpace c) : isForbiddenInDomain c := by
  simp only [isC0OrSpace, decide_eq_true_eq] at blank
  rcases Nat.lt_or_eq_of_le blank with control | space
  · simp [isForbiddenInDomain, control]
  · obtain rfl : c = ' ' := Char.toNat_inj.1 space
    decide

theorem mapDomainChar_of_isC0OrSpace (blank : isC0OrSpace c) : mapDomainChar c = [c] := by
  simp only [isC0OrSpace, decide_eq_true_eq] at blank
  have same : c.toLower = c := dif_neg fun upper => by
    have large : 65 ≤ c.toNat := upper.1
    omega
  rw [mapDomainChar, if_pos (by omega), same]

/-- No host ends in a control or a space. -/
theorem parseHost_of_blank (cs : List Char) (blank : isC0OrSpace c) :
    ∃ e, parseHost (cs ++ [c]) = .error e := by
  have small : c.toNat ≤ 0x20 := by simpa [isC0OrSpace] using blank
  unfold parseHost
  split
  · next rest bracketed =>
    have last : rest.getLast? ≠ some ']' := by
      obtain ⟨-, same⟩ | ⟨ds, -, rfl⟩ := List.append_eq_cons_iff.1 bracketed
      · exact absurd (List.cons.inj same).1 (ne_of_isC0OrSpace blank (by decide))
      · rw [List.getLast?_concat]
        exact fun same => ne_of_isC0OrSpace blank (by decide) (Option.some.inj same)
    rw [if_neg (by simpa using last)]
    exact ⟨_, rfl⟩
  · split
    · exact ⟨_, rfl⟩
    · next name text =>
      have byte : UInt8.ofNat c.toNat ∈ percentDecode (cs ++ [c]) :=
        mem_percentDecode (by simp) (ne_of_isC0OrSpace blank (by decide))
          (hexValue_of_isC0OrSpace blank) (by omega)
      have number : (UInt8.ofNat c.toNat).toNat = c.toNat :=
        UInt8.toNat_ofNat_of_lt' (Nat.lt_of_le_of_lt small (by decide))
      have ascii : UInt8.ofNat c.toNat < 0x80 := by
        rw [UInt8.lt_iff_toNat_lt, number]
        exact Nat.lt_of_le_of_lt small (by decide)
      have mem : c ∈ name := by
        have found := Utf8.mem_of_mem_decodeFrom text byte ascii
        rwa [number, Char.ofNat_toNat] at found
      have mapped : c ∈ name.flatMap mapDomainChar := by
        refine List.mem_flatMap.2 ⟨c, mem, ?_⟩
        rw [mapDomainChar_of_isC0OrSpace blank]
        exact List.mem_cons_self
      rw [domainToAscii_of_forbidden mapped (isForbiddenInDomain_of_isC0OrSpace blank)]
      exact ⟨_, rfl⟩

end Blank

/-! ## Host and port -/

/-- The host is all up to the first colon outside brackets. -/
theorem splitHost_append (inBrackets : Bool) (cs : List Char) :
    (splitHost inBrackets cs).1 ++ (splitHost inBrackets cs).2 = cs := by
  induction cs generalizing inBrackets with
  | nil => rfl
  | cons c cs ih =>
    unfold splitHost
    split
    · rfl
    · exact congrArg (c :: ·) (ih _)

/-- What follows it is a colon and a port. -/
theorem splitHost_snd (inBrackets : Bool) (cs : List Char) :
    (splitHost inBrackets cs).2 = [] ∨ ∃ port, (splitHost inBrackets cs).2 = ':' :: port := by
  induction cs generalizing inBrackets with
  | nil => exact .inl rfl
  | cons c cs ih =>
    unfold splitHost
    split
    · next colon => exact .inr ⟨cs, by rw [colon.1]⟩
    · exact ih _

/-- No port ends in a control or a space. -/
theorem parsePort_of_blank {scheme : String} {cs : List Char} {c : Char} (blank : isC0OrSpace c) :
    parsePort scheme (cs ++ [c]) = .error .badPort := by
  have noDigit : c.isDigit = false := by
    rw [Bool.eq_false_iff]
    intro digit
    have step : isStepChar c := by
      rw [isStepChar, Char.isAlphanum, digit, Bool.or_true, Bool.true_or]
    have visible := toNat_of_isStepChar step
    simp only [isC0OrSpace, decide_eq_true_eq] at blank
    omega
  have noNumber : readDigits (cs ++ [c]) = none := by
    rw [readDigits, if_neg (by simp [noDigit])]
  rw [parsePort, if_neg (by simp), noNumber]
  rfl

/-- The text of host and port, after the credentials. -/
def hostAndPort (cs : List Char) : List Char := (splitLastAt cs).elim cs (·.2)

theorem hostAndPort_append (cs : List Char) {c : Char} (noAt : c ≠ '@') :
    ∃ ds, hostAndPort (cs ++ [c]) = ds ++ [c] := by
  have reversed : splitAtFirst (· == '@') (cs ++ [c]).reverse
      = (c :: (splitAtFirst (· == '@') cs.reverse).1, (splitAtFirst (· == '@') cs.reverse).2) := by
    rw [List.reverse_concat, splitAtFirst, if_neg (by simpa using noAt)]
  rw [hostAndPort, splitLastAt, reversed]
  cases (splitAtFirst (· == '@') cs.reverse).2 with
  | none => exact ⟨cs, rfl⟩
  | some head => exact ⟨_, List.reverse_cons⟩

/-- **What it takes to read credentials, host and port.** -/
theorem parseAuthority_eq_ok {scheme : String} {cs : List Char} {u : Url}
    (special : isSpecialScheme scheme) (read : parseAuthority scheme cs = .ok u) :
    (splitHost false (hostAndPort cs)).1 ≠ [] ∧
      (∃ h, parseHost (splitHost false (hostAndPort cs)).1 = .ok h) ∧
      ∃ port, parsePort scheme ((splitHost false (hostAndPort cs)).2.drop 1) = .ok port := by
  simp only [parseAuthority, special, Bool.true_and, if_true] at read
  unfold hostAndPort
  generalize splitHost false ((splitLastAt cs).elim cs (·.2)) = parts at read ⊢
  split at read
  · cases read
  · next some =>
    obtain ⟨h, readHost, rest⟩ := exists_of_bind_eq_ok read
    split at rest
    · cases rest
    · obtain ⟨port, readPort, -⟩ := exists_of_bind_eq_ok rest
      exact ⟨by simpa using some, ⟨h, readHost⟩, port, readPort⟩

theorem scheme_parseAuthority {scheme : String} {cs : List Char} {u : Url}
    (read : parseAuthority scheme cs = .ok u) : u.scheme = scheme := by
  simp only [parseAuthority] at read
  generalize splitHost false ((splitLastAt cs).elim cs (·.2)) = parts at read
  split at read
  · cases read
  · split at read
    all_goals
      obtain ⟨h, -, rest⟩ := exists_of_bind_eq_ok read
      split at rest
      · cases rest
      · obtain ⟨port, -, whole⟩ := exists_of_bind_eq_ok rest
        obtain rfl := Except.ok.inj whole
        rfl

/-- **Nothing is read from a text with a control or a space at its end.** -/
theorem not_parseAuthority_of_blank {scheme : String} {cs : List Char} {c : Char} {u : Url}
    (special : isSpecialScheme scheme) (blank : isC0OrSpace c) :
    parseAuthority scheme (cs ++ [c]) ≠ .ok u := by
  intro read
  obtain ⟨ds, text⟩ := hostAndPort_append cs (ne_of_isC0OrSpace blank (by decide))
  obtain ⟨-, ⟨h, readHost⟩, n, readPort⟩ := parseAuthority_eq_ok special read
  rw [text] at readHost readPort
  have whole := splitHost_append false (ds ++ [c])
  rcases splitHost_snd false (ds ++ [c]) with noPort | ⟨port, rest⟩
  · rw [noPort, List.append_nil] at whole
    obtain ⟨e, failed⟩ := parseHost_of_blank ds blank
    exact absurd (failed.symm.trans (whole ▸ readHost)) (by simp)
  · rw [rest, List.drop_one, List.tail_cons] at readPort
    rcases List.eq_nil_or_concat port with rfl | ⟨digits, last, rfl⟩
    · rw [rest] at whole
      obtain ⟨-, same⟩ := List.append_inj' whole rfl
      exact ne_of_isC0OrSpace blank (by decide) (List.cons.inj same).1.symm
    · rw [List.concat_eq_append] at rest readPort
      rw [rest, ← List.cons_append, ← List.append_assoc] at whole
      obtain ⟨-, same⟩ := List.append_inj' whole rfl
      obtain rfl := (List.cons.inj same).1
      exact absurd ((parsePort_of_blank blank).symm.trans readPort) (by simp)

end Exposition.Url
