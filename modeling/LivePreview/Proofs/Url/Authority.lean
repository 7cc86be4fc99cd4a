import LivePreview.Proofs.Json.Numeral
import LivePreview.Proofs.Text.Words
import LivePreview.Proofs.Url.Percent
import LivePreview.Url.Parser
/-!
# LivePreview.Proofs.Url.Authority

**An authority is read as it was written.** A user name and a password are encoded, so the last `@` ends
them; a host of plain characters ends at the first colon; and what stands behind that is a number that
fits. So each part is found again (`parseAuthority_text`). Only the host is interpreted anew: what it is
read as is a hypothesis.
-/

namespace LivePreview.Url

open Text

variable {scheme text info name rest : List Char} {port : Option Nat} {host : Host} {a : Authority}

/-! ### User names -/

/-- Is this nothing, or a user name with or without a password as it is written? -/
def WrittenUserinfo (info : List Char) : Prop :=
  info = [] ∨ ∃ user, info = user ++ ['@'] ∧ userinfoText user = info ∧
    ∀ c ∈ user, isVisible c = true ∧ endsAuthority true c = false

theorem isEncoded_userinfo (text : List Char) : IsEncoded userinfoSet (percentEncode userinfoSet text) :=
  isEncoded_percentEncode (by decide) (by decide) text

/-- What is encoded in a user name stays within the authority, and a colon ends it. -/
theorem forall_of_isEncoded_userinfo (h : IsEncoded userinfoSet text) :
    ∀ c ∈ text, isVisible c = true ∧ endsAuthority true c = false ∧ (c != ':') = true := by
  intro c hc
  have hmarks : '/' ∈ userinfoSet ∧ '?' ∈ userinfoSet ∧ '#' ∈ userinfoSet ∧ '\\' ∈ userinfoSet ∧
      ':' ∈ userinfoSet := by decide
  have hne : ∀ {mark : Char}, mark ∈ userinfoSet → c ≠ mark := by
    rintro mark hm rfl
    exact (h c hc).2 hm
  refine ⟨(h c hc).1, ?_, bne_iff_ne.2 (hne hmarks.2.2.2.2)⟩
  simp only [endsAuthority, Bool.true_and, Bool.or_eq_false_iff, beq_eq_false_iff_ne]
  exact ⟨⟨⟨hne hmarks.1, hne hmarks.2.1⟩, hne hmarks.2.2.1⟩, hne hmarks.2.2.2.1⟩

theorem userinfoText_of_name (h : IsEncoded userinfoSet name) (hne : name ≠ []) :
    userinfoText name = name ++ ['@'] := by
  have hall : ∀ c ∈ name, (c != ':') = true := fun c hc => (forall_of_isEncoded_userinfo h c hc).2.2
  have htake : name.takeWhile (· != ':') = name := List.takeWhile_eq_self_iff.2 hall
  have hdrop : name.dropWhile (· != ':') = [] := List.dropWhile_eq_nil_iff.2 hall
  have hempty : name.isEmpty = false := List.isEmpty_eq_false_iff.2 hne
  simp only [userinfoText, htake, hdrop, percentEncode_of_isEncoded h, List.drop_nil, hempty,
    Bool.false_eq_true, if_false]

theorem userinfoText_of_password {password : List Char} (h : IsEncoded userinfoSet name)
    (hp : IsEncoded userinfoSet password) (hne : password ≠ []) :
    userinfoText (name ++ ':' :: password) = name ++ ':' :: password ++ ['@'] := by
  have hall : ∀ c ∈ name, (c != ':') = true := fun c hc => (forall_of_isEncoded_userinfo h c hc).2.2
  have hstop : ∀ c ∈ (':' :: password).head?, (c != ':') = false := by simp
  unfold userinfoText
  simp only [takeWhile_append_of_stop hall hstop, dropWhile_append_of_stop hall hstop,
    percentEncode_of_isEncoded h, List.drop_one, List.tail_cons, percentEncode_of_isEncoded hp]

theorem writtenUserinfo_userinfoText (text : List Char) : WrittenUserinfo (userinfoText text) := by
  have hname := isEncoded_userinfo (text.takeWhile (· != ':'))
  have hinside : ∀ {part}, IsEncoded userinfoSet part →
      ∀ c ∈ part, isVisible c = true ∧ endsAuthority true c = false := fun h c hc =>
    ⟨(forall_of_isEncoded_userinfo h c hc).1, (forall_of_isEncoded_userinfo h c hc).2.1⟩
  rw [userinfoText.eq_def]
  dsimp only
  generalize percentEncode userinfoSet (text.takeWhile (· != ':')) = name at hname
  split
  · split
    · exact .inl rfl
    · next hne =>
      exact .inr ⟨name, rfl, userinfoText_of_name hname (by simpa using hne), hinside hname⟩
  · next password hne =>
    have hpassword := isEncoded_userinfo ((text.dropWhile (· != ':')).drop 1)
    have hsome : percentEncode userinfoSet ((text.dropWhile (· != ':')).drop 1) ≠ [] :=
      fun he => hne (percentEncode_eq_nil he)
    refine .inr ⟨_, rfl, userinfoText_of_password hname hpassword hsome, fun c hc => ?_⟩
    rcases List.mem_append.1 hc with hc | hc
    · exact hinside hname c hc
    · rcases List.mem_cons.1 hc with rfl | hc
      · decide
      · exact hinside hpassword c hc

/-- The last `@` ends what stands in front of the host. -/
theorem splitUserinfo_of_written (h : WrittenUserinfo info) (hat : '@' ∉ text) :
    ∃ user, splitUserinfo (info ++ text) = (user, text) ∧ userinfoText (user.getD []) = info := by
  have hall : ∀ c ∈ text.reverse, (c != '@') = true :=
    bne_of_not_mem fun hc => hat (List.mem_reverse.1 hc)
  rcases h with rfl | ⟨user, rfl, huser, -⟩
  · refine ⟨none, ?_, rfl⟩
    rw [List.nil_append, splitUserinfo, List.dropWhile_eq_nil_iff.2 hall]
  · refine ⟨some user, ?_, huser⟩
    have hreverse : (user ++ ['@'] ++ text).reverse = text.reverse ++ '@' :: user.reverse := by simp
    have hstop : ∀ c ∈ ('@' :: user.reverse).head?, (c != '@') = false := by simp
    rw [splitUserinfo, hreverse, dropWhile_append_of_stop hall hstop, takeWhile_append_of_stop hall hstop]
    simp

/-! ### Hosts and ports -/

theorem splitHost_append (hname : ∀ c ∈ name, c ≠ ':' ∧ c ≠ '[') (hrest : ∀ c ∈ rest.head?, c = ':') :
    splitHost false (name ++ rest) = (name, rest) := by
  induction name with
  | nil =>
    cases rest with
    | nil => rfl
    | cons c rest =>
      rw [hrest c rfl]
      rfl
  | cons c name ih =>
    obtain ⟨hcolon, hbracket⟩ := hname c List.mem_cons_self
    have hstays : (if c = '[' then true else if c = ']' then false else false) = false := by
      rw [if_neg hbracket, ite_self]
    rw [List.cons_append, splitHost, if_neg (by simp [hcolon])]
    simp only [hstays, ih fun d hd => hname d (List.mem_cons_of_mem c hd)]

/-- Digits are read as the number that they spell, if it fits. -/
theorem foldlM_portNumber {digits : List Char} {n : Nat}
    (h : Nat.ofDigitChars 10 digits n ≤ 65535) :
    digits.foldlM (fun n c =>
      let n := n * 10 + (c.toNat - 48)
      if n ≤ 65535 then some n else none) n = some (Nat.ofDigitChars 10 digits n) := by
  induction digits generalizing n with
  | nil => rfl
  | cons c digits ih =>
    rw [Nat.ofDigitChars_cons, Nat.mul_comm] at h ⊢
    have hnext : n * 10 + (c.toNat - 48) ≤ 65535 := Nat.le_trans (Json.le_ofDigitChars _ _) h
    rw [List.foldlM_cons]
    dsimp only
    rw [if_pos hnext]
    exact ih h

theorem le_of_portNumber? {digits : List Char} {n : Nat} (h : portNumber? digits = some n) :
    n ≤ 65535 := by
  have hall : ∀ digits : List Char, ∀ m : Nat, m ≤ 65535 → digits.foldlM (fun n c =>
      let n := n * 10 + (c.toNat - 48)
      if n ≤ 65535 then some n else none) m = some n → n ≤ 65535 := by
    intro digits
    induction digits with
    | nil =>
      intro m hm h
      rw [← Option.some.inj h]
      exact hm
    | cons c digits ih =>
      intro m _ h
      rw [List.foldlM_cons] at h
      obtain ⟨next, hnext, h⟩ := Option.bind_eq_some_iff.1 h
      refine ih next ?_ h
      dsimp only at hnext
      split at hnext
      · rw [← Option.some.inj hnext]
        assumption
      · cases hnext
  exact hall digits 0 (Nat.zero_le _) h

/-- Is this a port that is written with this scheme? -/
def WrittenPort (scheme : List Char) (port : Option Nat) : Prop :=
  ∀ p ∈ port, p ≤ 65535 ∧ usualPort scheme ≠ some p

theorem parsePort_portText (h : WrittenPort scheme port) :
    parsePort scheme (portText port) = .ok (port, []) := by
  cases port with
  | none => rfl
  | some p =>
    obtain ⟨hle, hunusual⟩ := h p rfl
    have hdigits : ∀ c ∈ Nat.toDigits 10 p, isDigit c = true := fun _ => Json.isDigit_of_mem_toDigits
    have hnumber : portNumber? (Nat.toDigits 10 p) = some p := by
      have hvalue : Nat.ofDigitChars 10 (Nat.toDigits 10 p) 0 = p := Nat.ofDigitChars_ten_toDigits
      have hread := foldlM_portNumber (hvalue.trans_le hle)
      rwa [hvalue] at hread
    have hne : (Nat.toDigits 10 p).isEmpty = false := List.isEmpty_eq_false_iff.2 Nat.toDigits_ne_nil
    rw [portText, parsePort]
    simp only [List.takeWhile_eq_self_iff.2 hdigits, List.dropWhile_eq_nil_iff.2 hdigits, hnumber, hne,
      List.isEmpty_nil, Bool.not_true, Bool.false_and, Bool.false_or, Bool.false_eq_true, if_false,
      beq_iff_eq, if_neg hunusual]

theorem writtenPort_of_parsePort (h : parsePort scheme text = .ok (port, rest)) :
    WrittenPort scheme port := by
  unfold parsePort at h
  split at h
  · dsimp only at h
    split at h
    · cases h
    · next n hn =>
      split at h
      · cases h
      · injection h with h
        intro p hp
        have hport := (Prod.mk.inj h).1
        split at hport
        · rw [← hport] at hp
          cases hp
        · next hnot =>
          rw [← hport] at hp
          obtain rfl := Option.some.inj hp
          simp only [Bool.or_eq_true, beq_iff_eq, not_or] at hnot
          exact ⟨le_of_portNumber? hn, hnot.2⟩
  · injection h with h
    rw [← (Prod.mk.inj h).1]
    exact fun p hp => nomatch hp

/-! ### Authorities -/

/-- What the text of a host is read as. -/
def readHost (scheme text : List Char) : Except UrlError Host :=
  if isSpecial scheme then parseHost text else parseOpaqueHost text

/-- Is the text of a host one of plain characters, and not empty? -/
structure WrittenHost (text : List Char) : Prop where
  ne_nil : text ≠ []
  plain : ∀ c ∈ text, isVisible c = true ∧ c ∉ "/\\?#@:[|".toList

/-- Such a host is no drive letter, which ends in a colon or a bar. -/
theorem WrittenHost.not_isDriveLetter (h : WrittenHost text) : isDriveLetter text = false := by
  unfold isDriveLetter
  split
  · next c d =>
    have hnot : d ∉ "/\\?#@:[|".toList := (h.plain d (by simp)).2
    have hcolon : (d == ':') = false := beq_eq_false_iff_ne.2 fun he => hnot (he ▸ by decide)
    have hbar : (d == '|') = false := beq_eq_false_iff_ne.2 fun he => hnot (he ▸ by decide)
    rw [hcolon, hbar, Bool.or_false, Bool.and_false]
  · rfl

/-- Is the authority as it is written with this scheme? -/
structure WrittenAuthority (scheme : List Char) (a : Authority) : Prop where
  userinfo : WrittenUserinfo a.userinfo
  host : WrittenHost a.host.text
  port : WrittenPort scheme a.port

theorem mem_portText {c : Char} (h : c ∈ portText port) : c = ':' ∨ isDigit c = true := by
  cases port with
  | none => exact absurd h List.not_mem_nil
  | some p => exact (List.mem_cons.1 h).imp_right Json.isDigit_of_mem_toDigits

/-- All of an authority can be seen, and nothing in it ends it. -/
theorem WrittenAuthority.chars (h : WrittenAuthority scheme a) :
    ∀ c ∈ a.text, isVisible c = true ∧ endsAuthority true c = false := by
  intro c hc
  rw [Authority.text, List.append_assoc] at hc
  rcases List.mem_append.1 hc with hc | hc
  · rcases h.userinfo with hinfo | ⟨user, hinfo, -, huser⟩
    · rw [hinfo] at hc
      exact absurd hc List.not_mem_nil
    · rw [hinfo] at hc
      rcases List.mem_append.1 hc with hc | hc
      · exact huser c hc
      · rw [List.mem_singleton.1 hc]
        decide
  · rcases List.mem_append.1 hc with hc | hc
    · obtain ⟨hvisible, hnot⟩ := h.host.plain c hc
      have hends : ['/', '?', '#', '\\'] ⊆ "/\\?#@:[|".toList := by decide
      refine ⟨hvisible, Bool.eq_false_iff.2 fun he => hnot (hends ?_)⟩
      simpa [endsAuthority, or_assoc] using he
    · rcases mem_portText hc with rfl | hdigit
      · decide
      · have hne : ∀ {mark : Char}, isDigit mark = false → (c == mark) = false := fun hm =>
          beq_eq_false_iff_ne.2 (ne_of_class hdigit hm)
        refine ⟨?_, ?_⟩
        · exact isVisible_of_isAsciiAlnum (by rw [isAsciiAlnum, hdigit, Bool.or_true])
        · simp [endsAuthority, hne (show isDigit '/' = false by decide),
            hne (show isDigit '?' = false by decide), hne (show isDigit '#' = false by decide),
            hne (show isDigit '\\' = false by decide)]

/-- **A written authority is read as it is**, with the host that the text of its host stands for. -/
theorem parseAuthority_text (h : WrittenAuthority scheme a)
    (hhost : readHost scheme a.host.text = .ok host) (hne : host ≠ .domain []) (ended : Bool) :
    parseAuthority scheme ended a.text = .ok ({ a with host }, []) := by
  have hat : '@' ∉ a.host.text ++ portText a.port := by
    intro hm
    rcases List.mem_append.1 hm with hm | hm
    · exact absurd (h.host.plain _ hm).2 (by decide)
    · rcases mem_portText hm with hm | hm <;> exact absurd hm (by decide)
  obtain ⟨user, hsplit, hinfo⟩ := splitUserinfo_of_written h.userinfo hat
  have hhostPort : splitHost false (a.host.text ++ portText a.port) = (a.host.text, portText a.port) := by
    refine splitHost_append (fun c hc => ⟨?_, ?_⟩) fun c hc => ?_
    · rintro rfl
      exact absurd (h.host.plain _ hc).2 (by decide)
    · rintro rfl
      exact absurd (h.host.plain _ hc).2 (by decide)
    · cases hport : a.port with
      | none =>
        rw [hport] at hc
        cases hc
      | some p =>
        rw [hport] at hc
        exact (Option.some.inj hc).symm
  have hempty : a.host.text.isEmpty = false := List.isEmpty_eq_false_iff.2 h.host.ne_nil
  have hempty' : (a.host.text ++ portText a.port).isEmpty = false :=
    List.isEmpty_eq_false_iff.2 (List.append_ne_nil_of_left_ne_nil h.host.ne_nil _)
  have hdomain : (host == .domain []) = false := beq_eq_false_iff_ne.2 hne
  unfold readHost at hhost
  rw [parseAuthority, Authority.text, List.append_assoc]
  dsimp only
  rw [hsplit]
  simp only [hempty', hinfo, hhostPort, hempty, Bool.and_false, Bool.false_and, Bool.false_eq_true, if_false,
    parsePort_portText h.port]
  cases hspecial : isSpecial scheme <;>
    · simp only [hspecial, Bool.false_eq_true, if_false, if_true] at hhost ⊢
      simp [hhost, bind, Except.bind, pure, Except.pure, hdomain]

/-- An authority that was read is written, if its host is. -/
theorem writtenAuthority_of_parseAuthority {ended : Bool}
    (h : parseAuthority scheme ended text = .ok (a, rest)) (hhost : WrittenHost a.host.text) :
    WrittenAuthority scheme a := by
  unfold parseAuthority at h
  simp only [bind, Except.bind, pure, Except.pure, throw, throwThe, MonadExceptOf.throw] at h
  repeat' split at h
  all_goals cases h
  all_goals
    next hport _ => exact ⟨writtenUserinfo_userinfoText _, hhost, writtenPort_of_parsePort hport⟩

end LivePreview.Url
