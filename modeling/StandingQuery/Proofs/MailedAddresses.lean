import Mathlib
import StandingQuery.Delivery.Email
import StandingQuery.Proofs.Reports
import StandingQuery.Proofs.WrittenDigits

/-!
# Addresses that mails go to

The pattern of recipient addresses takes the texts that are a user, a domain and a last label (`Address.isAddress_iff`), over letters
that the case-insensitive match makes two more than those of ASCII. The mailer is asked at most once for a delivery, with a recipient
whose address is of this form and for a query that has a title, and a delivery succeeds exactly when it is asked and accepts
(`Email.send_wellFormed`).
-/

namespace StandingQuery

namespace Address

/-- The parts of a recipient's address over some letters: a user, a domain, and a last label of two to six letters. -/
structure Parts (letter : Char → Bool) where
  user : List Char
  domain : List Char
  top : List Char
  user_ne : user ≠ []
  domain_ne : domain ≠ []
  user_char : ∀ c ∈ user, letter c = true ∨ c.isDigit = true ∨ c ∈ ['.', '_', '%', '+', '-']
  domain_char : ∀ c ∈ domain, letter c = true ∨ c.isDigit = true ∨ c ∈ ['.', '-']
  top_letter : ∀ c ∈ top, letter c = true
  two_le_top : 2 ≤ top.length
  top_le_six : top.length ≤ 6

namespace Parts

variable {letter : Char → Bool}

/-- An address as it is written. -/
def text (p : Parts letter) : List Char := p.user ++ '@' :: (p.domain ++ '.' :: p.top)

theorem mem_text {p : Parts letter} {c : Char} :
    c ∈ p.text ↔ c ∈ p.user ∨ c = '@' ∨ c ∈ p.domain ∨ c = '.' ∨ c ∈ p.top := by
  simp [text]

/-- A character of an address is a letter, a digit, or one of the signs that may stand in it. -/
theorem char_of_mem_text {p : Parts letter} {c : Char} (h : c ∈ p.text) :
    letter c = true ∨ c.isDigit = true ∨ c ∈ ['@', '.', '_', '%', '+', '-'] := by
  rcases mem_text.1 h with h | rfl | h | rfl | h
  · exact (p.user_char c h).imp_right (Or.imp_right (List.mem_cons_of_mem _))
  · simp
  · have hsigns : ['.', '-'] ⊆ ['@', '.', '_', '%', '+', '-'] := by simp
    exact (p.domain_char c h).imp_right (Or.imp_right fun hc => hsigns hc)
  · simp
  · exact Or.inl (p.top_letter c h)

/-- Whatever stands in an address may count as a letter for less. -/
def narrowed {other : Char → Bool} (p : Parts letter) (h : ∀ c ∈ p.text, letter c = true → other c = true) : Parts other where
  user := p.user
  domain := p.domain
  top := p.top
  user_ne := p.user_ne
  domain_ne := p.domain_ne
  user_char c hc := (p.user_char c hc).imp_left (h c (mem_text.2 (.inl hc)))
  domain_char c hc := (p.domain_char c hc).imp_left (h c (mem_text.2 (.inr (.inr (.inl hc)))))
  top_letter c hc := h c (mem_text.2 (.inr (.inr (.inr (.inr hc))))) (p.top_letter c hc)
  two_le_top := p.two_le_top
  top_le_six := p.top_le_six

/-- What is a letter, a digit or one of some signs is no `@` if no letter and no sign is. -/
theorem ne_at (hat : letter '@' = false) {signs : List Char} (hsigns : '@' ∉ signs) {c : Char}
    (h : letter c = true ∨ c.isDigit = true ∨ c ∈ signs) : c ≠ '@' := by
  rintro rfl
  rcases h with h | h | h
  · rw [hat] at h
    cases h
  · exact absurd h (by decide)
  · exact hsigns h

/-- There is one `@` in an address. -/
theorem count_at (hat : letter '@' = false) (p : Parts letter) : p.text.count '@' = 1 := by
  have huser : '@' ∉ p.user := fun h => ne_at hat (by decide) (p.user_char _ h) rfl
  have hdomain : '@' ∉ p.domain := fun h => ne_at hat (by decide) (p.domain_char _ h) rfl
  have htop : '@' ∉ p.top := fun h => ne_at hat List.not_mem_nil (Or.inl (p.top_letter _ h)) rfl
  simp [text, List.count_eq_zero_of_not_mem, huser, hdomain, htop]

end Parts

/-! ## What the pattern takes -/

theorem isUserChar_iff {c : Char} :
    isUserChar c = true ↔ isLetter c = true ∨ c.isDigit = true ∨ c ∈ ['.', '_', '%', '+', '-'] := by
  simp [isUserChar, or_assoc]

theorem isDomainChar_iff {c : Char} : isDomainChar c = true ↔ isLetter c = true ∨ c.isDigit = true ∨ c ∈ ['.', '-'] := by
  simp [isDomainChar, or_assoc]

theorem isTopLabel_iff {s : List Char} :
    isTopLabel s = true ↔ 2 ≤ s.length ∧ s.length ≤ 6 ∧ ∀ c ∈ s, isLetter c = true := by
  simp [isTopLabel, and_assoc]

/-- A domain is what ends in a dot with a last label behind it. -/
theorem isDomain_iff {s : List Char} :
    isDomain s = true ↔ ∃ domain top, s = domain ++ '.' :: top ∧ domain ≠ [] ∧ (∀ c ∈ domain, isDomainChar c = true) ∧
      isTopLabel top = true := by
  unfold isDomain
  dsimp only
  constructor
  · intro h
    split at h
    · rename_i d front heq
      simp only [Bool.and_eq_true, Bool.not_eq_true', List.isEmpty_eq_false_iff, List.all_eq_true] at h
      obtain ⟨⟨htop, hne⟩, hchars⟩ := h
      have hsplit := congrArg List.reverse (Text.split_at_first heq)
      rw [List.reverse_reverse, List.reverse_append, List.reverse_cons, List.append_assoc, List.singleton_append] at hsplit
      exact ⟨front.reverse, _, hsplit, by simpa using hne, fun c hc => hchars c (List.mem_reverse.1 hc), htop⟩
    · cases h
  · rintro ⟨domain, top, rfl, hne, hchars, htop⟩
    have hdot : '.' ∉ top.reverse := fun h =>
      absurd ((isTopLabel_iff.1 htop).2.2 '.' (List.mem_reverse.1 h)) (by decide)
    have hback : (domain ++ '.' :: top).reverse = top.reverse ++ '.' :: domain.reverse := by simp
    obtain ⟨htake, hdrop⟩ := Text.span_ne hdot domain.reverse
    rw [hback, htake, hdrop, List.reverse_reverse]
    simp only [htop, Bool.true_and, Bool.and_eq_true, Bool.not_eq_true', List.isEmpty_eq_false_iff, List.all_eq_true]
    exact ⟨by simpa using hne, fun c hc => hchars c (List.mem_reverse.1 hc)⟩

/-- The pattern takes the addresses whose letters are those up to case. -/
theorem isAddress_iff {s : List Char} : isAddress s = true ↔ ∃ p : Parts isLetter, p.text = s := by
  unfold isAddress
  dsimp only
  constructor
  · intro h
    split at h
    · rename_i d rest heq
      simp only [Bool.and_eq_true, Bool.not_eq_true', List.isEmpty_eq_false_iff, List.all_eq_true, isDomain_iff] at h
      obtain ⟨⟨hne, hchars⟩, domain, top, rfl, hdomain, hdomains, htop⟩ := h
      obtain ⟨hlow, hhigh, htop⟩ := isTopLabel_iff.1 htop
      exact ⟨⟨_, domain, top, hne, hdomain, fun c hc => isUserChar_iff.1 (hchars c hc),
        fun c hc => isDomainChar_iff.1 (hdomains c hc), htop, hlow, hhigh⟩, (Text.split_at_first heq).symm⟩
    · cases h
  · rintro ⟨p, rfl⟩
    have hat : '@' ∉ p.user := fun h => absurd (isUserChar_iff.2 (p.user_char _ h)) (by decide)
    obtain ⟨htake, hdrop⟩ := Text.span_ne hat (p.domain ++ '.' :: p.top)
    unfold Parts.text
    rw [htake, hdrop]
    simp only [Bool.and_eq_true, Bool.not_eq_true', List.isEmpty_eq_false_iff, List.all_eq_true, isDomain_iff]
    exact ⟨⟨p.user_ne, fun c hc => isUserChar_iff.2 (p.user_char c hc)⟩, p.domain, p.top, rfl, p.domain_ne,
      fun c hc => isDomainChar_iff.2 (p.domain_char c hc), isTopLabel_iff.2 ⟨p.two_le_top, p.top_le_six, p.top_letter⟩⟩

/-- A character of an address over the letters of ASCII is a visible one of ASCII. -/
theorem Parts.visible {p : Parts Char.isAlpha} {c : Char} (h : c ∈ p.text) : 0x20 < c.toNat ∧ c.toNat < 0x7F := by
  rcases p.char_of_mem_text h with h | h | h
  · simp only [Char.isAlpha, Char.isUpper, Char.isLower, Bool.or_eq_true, Bool.and_eq_true, decide_eq_true_eq, ge_iff_le,
      UInt32.le_iff_toNat_le] at h
    change (65 ≤ c.toNat ∧ c.toNat ≤ 90) ∨ (97 ≤ c.toNat ∧ c.toNat ≤ 122) at h
    omega
  · simp only [Char.isDigit, Bool.and_eq_true, decide_eq_true_eq, ge_iff_le, UInt32.le_iff_toNat_le] at h
    change 48 ≤ c.toNat ∧ c.toNat ≤ 57 at h
    omega
  · simp only [List.mem_cons, List.not_mem_nil, or_false] at h
    rcases h with rfl | rfl | rfl | rfl | rfl | rfl <;> decide

/-- Only two characters beyond ASCII count as letters. -/
theorem isAlpha_of_isLetter {c : Char} (h : isLetter c = true) (hsmall : c ≠ '\u017F') (hkelvin : c ≠ '\u212A') :
    c.isAlpha = true := by
  simpa [isLetter, hsmall, hkelvin] using h

end Address

namespace Email

/-- A mailbox is what its text is read as. -/
theorem mailbox_eq_ok {wrong : MailboxError → EmailError} {text : String} {m : Mailbox} :
    mailbox wrong text = .ok m ↔ Mailbox.parse text = .ok m := by
  unfold mailbox
  cases Mailbox.parse text <;> simp

variable {sender : String} {asOf : Instant} {d : Delivery}

/-- A mail is put together from mailboxes that were read, for an address that the pattern takes and a query with a title. -/
theorem prepare_eq_ok {mail : OutgoingMail} (h : prepare sender asOf d = .ok mail) :
    ∃ address title, Keyed.get? d.parameters parameter = some address ∧ Address.isAddress address.toList = true ∧
      d.query.title = some title ∧ Mailbox.parse sender = .ok mail.sender ∧ Mailbox.parse address = .ok mail.recipient ∧
      mail.subject = subject title ∧ mail.body = body title d.results asOf := by
  unfold prepare at h
  split at h
  · cases h
  · rename_i address haddress
    split at h
    · cases h
    · rename_i htaken
      simp only [bind_eq_ok, mailbox_eq_ok] at h
      obtain ⟨from_, hsender, recipient, hrecipient, h⟩ := h
      split at h
      · cases h
      · rename_i title htitle
        cases h
        exact ⟨address, title, haddress, by simpa using htaken, htitle, hsender, hrecipient, rfl, rfl⟩

/-- The mailer is asked with the mail that is put together, whatever mailer there is. -/
theorem send_fst (mailer : Mailer) : (send sender mailer asOf d).1 = (prepare sender asOf d).toOption := by
  unfold send
  cases prepare sender asOf d with
  | error e => rfl
  | ok mail =>
    dsimp only
    cases mailer mail <;> rfl

/-- What comes of a delivery is what the mailer answers, if it is asked. -/
theorem outcome_eq (mailer : Mailer) :
    outcome sender mailer asOf d =
      match prepare sender asOf d with
      | .error e => .error e.failure
      | .ok mail => (mailer mail).mapError fun e => (EmailError.refused e).failure := by
  unfold outcome send
  cases prepare sender asOf d with
  | error e => rfl
  | ok mail =>
    dsimp only
    cases mailer mail <;> rfl

/-- A delivery asks the mailer at most once, whatever mailer there is, and then only with a recipient whose address is a user, an `@`,
a domain, a dot and a last label, all in visible characters of ASCII, and for a query that has a title. It succeeds exactly when the
mailer was asked and accepted the mail; otherwise the mailer was not asked or its refusal is what is reported. -/
theorem send_wellFormed (sender : String) (mailer : Mailer) (asOf : Instant) (d : Delivery)
    (hplain : ∀ address ∈ Keyed.get? d.parameters parameter, ∀ c ∈ address.toList, c ≠ '\u017F' ∧ c ≠ '\u212A') :
    (∀ mail, (send sender mailer asOf d).1 = some mail →
      ∃ address title, Keyed.get? d.parameters parameter = some address ∧ d.query.title = some title ∧
        (∃ p : Address.Parts Char.isAlpha, p.text = address.toList) ∧ address.toList.count '@' = 1 ∧
        (∀ c ∈ address.toList, 0x20 < c.toNat ∧ c.toNat < 0x7F) ∧ Mailbox.parse address = .ok mail.recipient) ∧
    (∀ other : Mailer, (send sender other asOf d).1 = (send sender mailer asOf d).1 ∧
      ((∀ mail ∈ (send sender mailer asOf d).1, other mail = mailer mail) →
        outcome sender other asOf d = outcome sender mailer asOf d)) ∧
    (outcome sender mailer asOf d = .ok () ↔ ∃ mail, (send sender mailer asOf d).1 = some mail ∧ mailer mail = .ok ()) ∧
    ∀ f, outcome sender mailer asOf d = .error f →
      (send sender mailer asOf d).1 = none ∨ ∃ mail e, (send sender mailer asOf d).1 = some mail ∧ mailer mail = .error e ∧
        f.message = "There was a problem sending an email with scheduled query results: " ++ e.message := by
  simp only [send_fst, outcome_eq]
  cases hprepare : prepare sender asOf d with
  | error e => simp [Except.toOption]
  | ok mail =>
    obtain ⟨address, title, haddress, htaken, htitle, -, hrecipient, -⟩ := prepare_eq_ok hprepare
    obtain ⟨p, hp⟩ := Address.isAddress_iff.1 htaken
    have hletters : ∀ c ∈ p.text, Address.isLetter c = true → c.isAlpha = true := fun c hc hletter => by
      obtain ⟨hsmall, hkelvin⟩ := hplain address haddress c (hp ▸ hc)
      exact Address.isAlpha_of_isLetter hletter hsmall hkelvin
    have hascii : (p.narrowed hletters).text = address.toList := hp
    dsimp only [Except.toOption]
    refine ⟨fun asked hasked => ?_, fun other => ⟨trivial, fun hsame => ?_⟩, ?_, fun f hf => Or.inr ?_⟩
    · cases hasked
      refine ⟨address, title, haddress, htitle, ⟨_, hascii⟩, ?_, fun c hc => ?_, hrecipient⟩
      · rw [← hascii]
        exact Address.Parts.count_at (by decide) _
      · exact Address.Parts.visible (p := p.narrowed hletters) (hascii ▸ hc)
    · rw [hsame mail rfl]
    · cases hanswer : mailer mail <;> simp [Except.mapError, hanswer]
    · cases hanswer : mailer mail with
      | ok _ =>
        rw [hanswer] at hf
        cases hf
      | error e =>
        rw [hanswer] at hf
        cases hf
        exact ⟨mail, e, rfl, hanswer, rfl⟩

/-- An address without a name is a mailbox if its parts keep to the limits. -/
theorem parse_of_split {text : String} {user domain : List Char} (h : Mailbox.split text.toList = some (none, user, domain))
    (huser : Mailbox.isUser user = true) (hdomain : Domain.namesHost domain = true) :
    Mailbox.parse text = .ok ⟨none, String.ofList user, String.ofList domain⟩ := by
  unfold Mailbox.parse
  rw [h]
  simp [huser, hdomain]

/-- An address that the pattern takes is written to from its own mailbox, for a query with a title. -/
theorem prepare_of_parse (asOf : Instant) {text title : String} {m : Mailbox}
    (haddress : Keyed.get? d.parameters parameter = some text)
    (htaken : Address.isAddress text.toList = true) (hparse : Mailbox.parse text = .ok m) (htitle : d.query.title = some title) :
    prepare text asOf d = .ok ⟨m, m, subject title, body title d.results asOf⟩ := by
  have hmailbox (wrong : MailboxError → EmailError) : mailbox wrong text = .ok m := mailbox_eq_ok.2 hparse
  unfold prepare
  simp only [haddress, htaken, htitle, hmailbox, Bool.not_true, Bool.false_eq_true, if_false]
  rfl

/-- A mail to an address whose domain has dots of its own is sent if the mailer accepts it. -/
theorem send_wellFormed_plain :
    let text := "a+b@mail.example.com"
    let d : Delivery := ⟨⟨"q1", "", some "Ships", [], []⟩, ⟨[], 0⟩, "alice", "inbox", [("email", text)]⟩
    let mailer : Mailer := fun _ => .ok ()
    (∀ address ∈ Keyed.get? d.parameters parameter, ∀ c ∈ address.toList, c ≠ '\u017F' ∧ c ≠ '\u212A') ∧
      (∃ mail, (send text mailer ⟨0, 0⟩ d).1 = some mail ∧ (∃ p : Address.Parts Char.isAlpha, p.text = text.toList)) ∧
      outcome text mailer ⟨0, 0⟩ d = .ok () := by
  intro text d mailer
  have hplain : ∀ address ∈ Keyed.get? d.parameters parameter, ∀ c ∈ address.toList, c ≠ '\u017F' ∧ c ≠ '\u212A' := by
    have hall : (text.toList.all fun c => c != '\u017F' && c != '\u212A') = true := by decide +kernel
    rintro _ ⟨⟩
    simpa using hall
  have haddress : Keyed.get? d.parameters parameter = some text := rfl
  have hsplit : Mailbox.split text.toList = some (none, "a+b".toList, "mail.example.com".toList) := by cbv
  have hparse := parse_of_split hsplit (by decide +kernel) (by decide +kernel)
  have hprepare := prepare_of_parse ⟨0, 0⟩ haddress (by decide +kernel) hparse rfl
  have hasked : (send text mailer ⟨0, 0⟩ d).1 = some _ := (send_fst mailer).trans (congrArg Except.toOption hprepare)
  obtain ⟨hmails, -, hok, -⟩ := send_wellFormed text mailer ⟨0, 0⟩ d hplain
  obtain ⟨address, title, hsame, -, hparts, -⟩ := hmails _ hasked
  cases haddress.symm.trans hsame
  exact ⟨hplain, ⟨_, hasked, hparts⟩, hok.2 ⟨_, hasked, rfl⟩⟩

set_option maxRecDepth 100000 in
/-- The table of the letters and digits beyond ASCII begins with these. -/
theorem alphanumericSet_front :
    ∃ rest, Text.alphanumericSet =
      ⟨((Text.pieces Text.isBlank ("\n  AA B2-B3 B5 B9-BA BC-BE C0-D6 D8-F6 F8-2C1 ".toList ++ rest)).filter fun row =>
        !row.isEmpty).map Text.codeRange⟩ := by
  have hrest {table : String} {s : List Char} (h : table = String.ofList s) :
      Text.CodeSet.ofTable table = ⟨((Text.pieces Text.isBlank s).filter fun row => !row.isEmpty).map Text.codeRange⟩ := by
    rw [h, Text.CodeSet.ofTable, Text.tableRows, String.toList_ofList]
  exact ⟨_, hrest rfl⟩

/-- The long s is a letter. -/
theorem isAlphanumeric_longS : Text.isAlphanumeric '\u017F' = true := by
  have hmem : Text.alphanumericSet.contains '\u017F' = true := by
    obtain ⟨rest, hrest⟩ := alphanumericSet_front
    rw [hrest]
    rfl
  simp [Text.isAlphanumeric, hmem]

/-- The letters up to case are more than those of ASCII: a mail goes to an address that begins with a long s. -/
theorem send_longS :
    let text := "\u017F@example.com"
    let d : Delivery := ⟨⟨"q1", "", some "Ships", [], []⟩, ⟨[], 0⟩, "alice", "inbox", [("email", text)]⟩
    let mailer : Mailer := fun _ => .ok ()
    (∃ mail, (send text mailer ⟨0, 0⟩ d).1 = some mail) ∧ Keyed.get? d.parameters parameter = some text ∧
      ¬∀ c ∈ text.toList, c.toNat < 0x80 := by
  intro text d mailer
  have haddress : Keyed.get? d.parameters parameter = some text := rfl
  have hsplit : Mailbox.split text.toList = some (none, ['\u017F'], "example.com".toList) := by cbv
  have huser : Mailbox.isUser ['\u017F'] = true := by
    have hbytes : Text.byteCount ['\u017F'] ≤ 64 := by decide
    simp [Mailbox.isUser, Text.pieces, Text.isAtomChar, hbytes, isAlphanumeric_longS]
  have hparse := parse_of_split hsplit huser (by decide +kernel)
  have hprepare := prepare_of_parse ⟨0, 0⟩ haddress (by decide +kernel) hparse rfl
  have hlongS : '\u017F' ∈ text.toList := by decide +kernel
  exact ⟨⟨_, (send_fst mailer).trans (congrArg Except.toOption hprepare)⟩, haddress, fun h => absurd (h _ hlongS) (by decide)⟩

end Email

end StandingQuery
