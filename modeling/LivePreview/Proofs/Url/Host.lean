import LivePreview.Proofs.Text.Occurrence
import LivePreview.Proofs.Url.Composition
import LivePreview.Proofs.Url.Written
/-!
# LivePreview.Proofs.Url.Host

**A host of ASCII letters is read in small letters** (`parseHost_eq_ok_of_letters`), if the scheme is
special, and otherwise as it stands; dots and hyphens count as letters here. What a host is read as does
not depend on the case of its letters, also where a label is in Punycode (`parseHost_lowerAscii`), and a
host that differs from a known one in that alone is read as one that does (`exists_readHost`).
-/

namespace LivePreview.Url

open Text

variable {scheme text name : List Char}

/-! ### Folding -/

theorem foldChar?_of_ascii {c : Char} (h : c.toNat < 128) : foldChar? c = some [c.toLower.toNat] :=
  if_pos h

theorem toNat_toLower_lt {c : Char} (h : c.toNat < 128) : c.toLower.toNat < 128 := by
  rw [toNat_toLower]
  split <;> omega

theorem mapM_eq_some_map {α β : Type} {f : α → Option β} {g : α → β} {xs : List α}
    (h : ∀ x ∈ xs, f x = some (g x)) : xs.mapM f = some (xs.map g) := by
  induction xs with
  | nil => rfl
  | cons x xs ih =>
    rw [List.mapM_cons, h x List.mem_cons_self, ih fun y hy => h y (List.mem_cons_of_mem x hy)]
    rfl

theorem mapM_foldChar?_of_ascii (h : ∀ c ∈ text, c.toNat < 128) :
    text.mapM foldChar? = some (text.map fun c => [c.toLower.toNat]) :=
  mapM_eq_some_map fun c hc => foldChar?_of_ascii (h c hc)

/-- Capital letters of ASCII are folded to small ones. -/
theorem normalize?_lowerAscii (h : ∀ c ∈ text, c.toNat < 128) :
    normalize? (lowerAscii text) = normalize? text := by
  have hlower : ∀ c ∈ lowerAscii text, c.toNat < 128 := by
    intro c hc
    obtain ⟨d, hd, rfl⟩ := List.mem_map.1 hc
    exact toNat_toLower_lt (h d hd)
  have hsame : ((lowerAscii text).map fun c => [c.toLower.toNat]) = text.map fun c => [c.toLower.toNat] := by
    rw [lowerAscii, List.map_map]
    exact List.map_congr_left fun c _ => by rw [Function.comp_apply, toLower_toLower]
  unfold normalize?
  rw [mapM_foldChar?_of_ascii hlower, mapM_foldChar?_of_ascii h, hsame]

/-! ### Hosts of letters -/

/-- Is `c` a letter of ASCII, a dot or a hyphen? -/
def isHostLetter (c : Char) : Bool :=
  isAsciiLetter c || c == '.' || c == '-'

theorem isVisible_of_isHostLetter {c : Char} (h : isHostLetter c = true) : isVisible c = true := by
  rw [isHostLetter, Bool.or_eq_true, Bool.or_eq_true, beq_iff_eq, beq_iff_eq] at h
  rcases h with (h | rfl) | rfl
  · exact isVisible_of_isAsciiAlnum (by rw [isAsciiAlnum, h, Bool.true_or])
  all_goals decide

theorem lt_of_isHostLetter {c : Char} (h : isHostLetter c = true) : c.toNat < 128 := by
  have hvisible := isVisible_of_isHostLetter h
  simp only [isVisible, Bool.and_eq_true, decide_eq_true_eq] at hvisible
  omega

theorem isHostLetter_of_toLower {c : Char} (h : isHostLetter c.toLower = true) :
    isHostLetter c = true := by
  rw [isHostLetter, isAsciiLetter_toLower, Bool.or_eq_true, Bool.or_eq_true, beq_iff_eq,
    beq_iff_eq] at h
  rw [isHostLetter, Bool.or_eq_true, Bool.or_eq_true, beq_iff_eq, beq_iff_eq]
  exact h.imp (Or.imp_right (eq_of_toLower_eq (by decide))) (eq_of_toLower_eq (by decide))

theorem isHostLetter_toLower {c : Char} (h : isHostLetter c = true) : isHostLetter c.toLower = true := by
  rw [isHostLetter, Bool.or_eq_true, Bool.or_eq_true, beq_iff_eq, beq_iff_eq] at h
  rcases h with (h | rfl) | rfl
  · rw [isHostLetter, isAsciiLetter_toLower, h, Bool.true_or, Bool.true_or]
  all_goals decide

theorem isForbidden_of_isHostLetter {c : Char} (h : isHostLetter c = true) : isForbidden c = false := by
  have hvisible := isVisible_of_isHostLetter h
  have hmarks : c ∉ "%#/:<>?@[\\]^|".toList := not_mem_of_class h (by decide)
  simp only [isVisible, Bool.and_eq_true, decide_eq_true_eq] at hvisible
  simp only [isForbidden, Bool.or_eq_false_iff, decide_eq_false_iff_not, List.contains_eq_mem]
  exact ⟨⟨by omega, by omega⟩, hmarks⟩

/-- Letters are folded to small ones, and do not change otherwise. -/
theorem normalize?_of_letters (h : ∀ c ∈ text, isHostLetter c = true) :
    normalize? text = some (lowerAscii text) := by
  have hascii : ∀ c ∈ text, c.toNat < 128 := fun c hc => lt_of_isHostLetter (h c hc)
  have hfolded : (text.map fun c => [c.toLower.toNat]).flatten = text.map fun c => c.toLower.toNat := by
    rw [← List.flatMap_def, ← List.map_eq_flatMap]
  have hcomposed : composed (text.map fun c => c.toLower.toNat) = text.map fun c => c.toLower.toNat := by
    refine composed_of_ascii fun n hn => ?_
    obtain ⟨c, hc, rfl⟩ := List.mem_map.1 hn
    exact toNat_toLower_lt (hascii c hc)
  have hsame : (text.map fun c => c.toLower.toNat).map Char.ofNat = lowerAscii text := by
    rw [List.map_map, lowerAscii]
    exact List.map_congr_left fun c _ => Char.ofNat_toNat c.toLower
  have hallowed : ((lowerAscii text).any fun c => c.toNat < 128 && isForbidden c) = false := by
    refine List.any_eq_false.2 fun c hc => ?_
    obtain ⟨d, hd, rfl⟩ := List.mem_map.1 hc
    simp [isForbidden_of_isHostLetter (isHostLetter_toLower (h d hd))]
  unfold normalize?
  rw [mapM_foldChar?_of_ascii hascii, Option.bind_eq_bind, Option.bind_some, hfolded, hcomposed]
  dsimp only
  rw [hsame, hallowed]
  rfl

/-- A domain of letters is its own ASCII form in small letters, if no label of it looks like one in
Punycode. -/
theorem domainToAscii?_of_letters (h : ∀ c ∈ text, isHostLetter c = true)
    (hmark : ∀ label ∈ splitAtChar '.' (lowerAscii text), dropLead? punycodeMark label = none) :
    domainToAscii? text = some (lowerAscii text) := by
  have hlabel : ∀ label ∈ splitAtChar '.' (lowerAscii text), labelToAscii? label = some label := by
    intro label hl
    have hascii : isAscii label = true := by
      refine List.all_eq_true.2 fun c hc => ?_
      obtain ⟨d, hd, rfl⟩ := List.mem_map.1 ((infix_of_mem_splitAtChar hl).subset hc)
      exact decide_eq_true (toNat_toLower_lt (lt_of_isHostLetter (h d hd)))
    rw [labelToAscii?, hmark label hl]
    exact if_pos hascii
  have hlabels : (splitAtChar '.' (lowerAscii text)).mapM labelToAscii? =
      some (splitAtChar '.' (lowerAscii text)) := by
    rw [mapM_eq_some_map hlabel, List.map_id']
  unfold domainToAscii?
  rw [normalize?_of_letters h]
  simp only [Option.bind_eq_bind, Option.bind_some, hlabels, (splitAtChar_eq_iff.1 rfl).2.1]
  rfl

theorem isDigit_of_isHostLetter {c : Char} (h : isHostLetter c = true) : isDigit c = false := by
  rw [isHostLetter, Bool.or_eq_true, Bool.or_eq_true, beq_iff_eq, beq_iff_eq] at h
  rcases h with (h | rfl) | rfl
  · simp only [isAsciiLetter, Bool.or_eq_true, Bool.and_eq_true, decide_eq_true_eq] at h
    simp only [isDigit, Bool.and_eq_false_iff, decide_eq_false_iff_not]
    omega
  all_goals decide

/-- Letters are digits from ten upwards only. -/
theorem le_of_hexValue?_of_isHostLetter {c : Char} (h : isHostLetter c = true) {d : Nat}
    (hd : hexValue? c = some d) : 10 ≤ d := by
  unfold hexValue? at hd
  dsimp only at hd
  rw [isDigit_of_isHostLetter h, if_neg Bool.false_ne_true] at hd
  split at hd
  · next hsmall =>
    rw [Bool.and_eq_true, decide_eq_true_eq, decide_eq_true_eq] at hsmall
    have hvalue := Option.some.inj hd
    omega
  · split at hd
    · next hcapital =>
      rw [Bool.and_eq_true, decide_eq_true_eq, decide_eq_true_eq] at hcapital
      have hvalue := Option.some.inj hd
      omega
    · cases hd

/-- A number begins with a digit, and so not with a letter. -/
theorem ipv4Number?_of_letters (h : ∀ c ∈ text, isHostLetter c = true) : ipv4Number? text = none := by
  have hzero : '0' ∉ text := not_mem_of_forall_class h (by decide)
  unfold ipv4Number?
  split
  · rfl
  · exact absurd List.mem_cons_self hzero
  · exact absurd List.mem_cons_self hzero
  · exact absurd List.mem_cons_self hzero
  · next hne _ _ _ =>
    obtain ⟨c, rest, rfl⟩ := List.exists_cons_of_ne_nil hne
    rw [number?, List.foldlM_cons]
    cases hvalue : hexValue? c with
    | none => rfl
    | some d =>
      have hten := le_of_hexValue?_of_isHostLetter (h c List.mem_cons_self) hvalue
      have hguard : (guard (d < 10) : Option Unit) = none := if_neg (by omega)
      rw [Option.bind_eq_bind, Option.bind_some, hguard]
      rfl

theorem endsInNumber_of_letters (h : ∀ c ∈ text, isHostLetter c = true) : endsInNumber text = false := by
  have hlabel : ∀ label ∈ (splitAtChar '.' text).reverse,
      ((!label.isEmpty && label.all isDigit) || (ipv4Number? label).isSome) = false := by
    intro label hl
    have hletters : ∀ c ∈ label, isHostLetter c = true := fun c hc =>
      h c ((infix_of_mem_splitAtChar (List.mem_reverse.1 hl)).subset hc)
    rw [ipv4Number?_of_letters hletters, Option.isSome_none, Bool.or_false]
    cases label with
    | nil => rfl
    | cons c label =>
      rw [List.all_cons, isDigit_of_isHostLetter (hletters c List.mem_cons_self), Bool.false_and,
        Bool.and_false]
  unfold endsInNumber
  dsimp only
  split
  · rfl
  · next last hlast =>
    refine hlabel last ?_
    split at hlast
    · next hparts =>
      rw [hparts, ← Option.some.inj hlast]
      exact List.mem_cons_of_mem _ List.mem_cons_self
    · cases hlast
    · next hparts =>
      rw [hparts, ← Option.some.inj hlast]
      exact List.mem_cons_self
    · cases hlast

/-- The host that a domain stands for. -/
def hostOfDomain : Option (List Char) → Except UrlError Host
  | none => .error .invalidDomain
  | some domain =>
    if domain.isEmpty then .error .emptyHost
    else if endsInNumber domain then
      match parseIpv4? domain with
      | some address => .ok (.ipv4 address)
      | none => .error .invalidIpv4
    else .ok (.domain domain)

/-- A host of letters is read from its own characters. -/
theorem parseHost_of_letters (h : ∀ c ∈ text, isHostLetter c = true) :
    parseHost text = hostOfDomain (domainToAscii? text) := by
  have hpercent : '%' ∉ text := not_mem_of_forall_class h (by decide)
  have hascii : ∀ c ∈ text, c.toNat < 128 := fun c hc => lt_of_isHostLetter (h c hc)
  unfold parseHost
  split
  · exact absurd (h '[' List.mem_cons_self) (by decide)
  · rw [percentDecode_of_not_mem hpercent, decode?_encode_of_ascii hascii, Option.bind_some]
    rfl

/-- **A host of letters is read in small letters**, if no label of it looks like one in Punycode. -/
theorem parseHost_eq_ok_of_letters (h : ∀ c ∈ text, isHostLetter c = true) (hne : text ≠ [])
    (hmark : ∀ label ∈ splitAtChar '.' (lowerAscii text), dropLead? punycodeMark label = none) :
    parseHost text = .ok (.domain (lowerAscii text)) := by
  have hlower : ∀ c ∈ lowerAscii text, isHostLetter c = true := by
    intro c hc
    obtain ⟨d, hd, rfl⟩ := List.mem_map.1 hc
    exact isHostLetter_toLower (h d hd)
  have hfull : (lowerAscii text).isEmpty = false := by
    rw [List.isEmpty_eq_false_iff, lowerAscii]
    exact fun he => hne (List.map_eq_nil_iff.1 he)
  rw [parseHost_of_letters h, domainToAscii?_of_letters h hmark, hostOfDomain, hfull,
    endsInNumber_of_letters hlower]
  rfl

/-- **The case of letters does not matter** to what a host of letters is read as. -/
theorem parseHost_lowerAscii (h : ∀ c ∈ lowerAscii text, isHostLetter c = true) :
    parseHost (lowerAscii text) = parseHost text := by
  have hletters : ∀ c ∈ text, isHostLetter c = true := fun c hc =>
    isHostLetter_of_toLower (h _ (List.mem_map_of_mem hc))
  have hascii : ∀ c ∈ text, c.toNat < 128 := fun c hc => lt_of_isHostLetter (hletters c hc)
  have hdomain : domainToAscii? (lowerAscii text) = domainToAscii? text := by
    unfold domainToAscii?
    rw [normalize?_lowerAscii hascii]
  rw [parseHost_of_letters h, parseHost_of_letters hletters, hdomain]

theorem parseOpaqueHost_of_letters (h : ∀ c ∈ text, isHostLetter c = true) :
    parseOpaqueHost text = .ok (.domain text) := by
  have hencoded : IsEncoded [] text := fun c hc =>
    ⟨isVisible_of_isHostLetter (h c hc), List.not_mem_nil⟩
  have hallowed : (text.any fun c => c == '\x00' || c == ' ' || "#/:<>?@[\\]^|".toList.contains c) =
      false := by
    rw [List.any_eq_false]
    intro c hc
    have hmarks : ('\x00' :: ' ' :: "#/:<>?@[\\]^|".toList).any isHostLetter = false := by decide
    simpa [or_assoc] using not_mem_of_class (h c hc) hmarks
  unfold parseOpaqueHost
  split
  · exact absurd (h '[' List.mem_cons_self) (by decide)
  · rw [hallowed, if_neg Bool.false_ne_true, percentEncode_of_isEncoded hencoded]

/-- A host of letters that is not empty is written. -/
theorem writtenHost_of_letters (hne : text ≠ []) (h : ∀ c ∈ text, isHostLetter c = true) :
    WrittenHost text :=
  ⟨hne, fun c hc => ⟨isVisible_of_isHostLetter (h c hc), not_mem_of_class (h c hc) (by decide)⟩⟩

/-- **A host that is a known one but for the case of its letters** is read as such a host. -/
theorem exists_readHost (hname : ∀ c ∈ name, isHostLetter c = true) (hne : name ≠ [])
    (hread : parseHost name = .ok (.domain name)) (h : lowerAscii text = name) (scheme : List Char) :
    WrittenHost text ∧ ∃ read, readHost scheme text = .ok (.domain read) ∧ lowerAscii read = name := by
  rw [← h] at hname
  have hletters : ∀ c ∈ text, isHostLetter c = true := fun c hc =>
    isHostLetter_of_toLower (hname _ (List.mem_map_of_mem hc))
  have htext : text ≠ [] := by
    rintro rfl
    exact hne h.symm
  refine ⟨writtenHost_of_letters htext hletters, ?_⟩
  unfold readHost
  split
  · refine ⟨name, ?_, ?_⟩
    · rw [← parseHost_lowerAscii hname, h, hread]
    · rw [← h, lowerAscii_lowerAscii]
  · exact ⟨text, parseOpaqueHost_of_letters hletters, h⟩

end LivePreview.Url
