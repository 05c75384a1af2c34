import DocumentCursor.Net.Address
import DocumentCursor.Proofs.Numerals

/-! # Addresses and their text form

An address is read from one of four forms: its host stands in brackets or as it is, with or without
a port behind it. Nothing in brackets is looked at but the closing one, so that there may be no host
at all between them, or one that begins with another bracket. Neither of these reads back, since it
is written without brackets around it; every other host does.

* **`Form`** and **`read?_eq_some_iff`**: the texts that are read, and as what.
* **`Plain`**: what a host must be for its address to read back.
* **`form_written`** and **`read?_written_of_not_plain`**: whether there is a form that an address
  is written in.
* **`text_reads_back`**: which of the addresses that are read would be read again as they are
  written.
* **`Form.unique`**, **`form_written_iff`** and **`parse_exact`**: the forms are the grammar of the
  reader, and which hosts and ports read back.
-/

namespace DocumentCursor.Net.Address

open Text

variable {text host : List Char} {port : UInt16}

/-! ## Forms -/

/-- **A text is an address in one of its forms**: `[host]`, `[host]:port`, `host` and `host:port`,
with the host and the port that it gives. A host in brackets may be empty and may have colons. -/
inductive Form : List Char → List Char → UInt16 → Prop
  | bracketed {host : List Char} :
    ']' ∉ host → Form ('[' :: (host ++ [']'])) host defaultPort
  | bracketedWithPort {host digits : List Char} {port : UInt16} :
    ']' ∉ host → Numeral.Says digits port.toNat →
    Form ('[' :: (host ++ ']' :: ':' :: digits)) host port
  | bare {host : List Char} :
    host ≠ [] → ':' ∉ host → host.head? ≠ some '[' → Form host host defaultPort
  | bareWithPort {host digits : List Char} {port : UInt16} :
    host ≠ [] → ':' ∉ host → host.head? ≠ some '[' → Numeral.Says digits port.toNat →
    Form (host ++ ':' :: digits) host port

/-- A port is read where a numeral says it: `port? digits = some port ↔ Says digits port.toNat`. -/
theorem port?_eq_some_iff {digits : List Char} :
    port? digits = some port ↔ Numeral.Says digits port.toNat :=
  Numeral.map_read?_eq_some_iff (fun _ small => UInt16.toNat_ofNat_of_lt' (Nat.lt_succ_of_le small))
    (fun _ => UInt16.ofNat_toNat) (fun port => Nat.le_of_lt_succ port.toNat_lt)

/-- What is read where an opening bracket is closed: the host up to the first `']'`, and the port of
what is `after` it. -/
theorem read?_bracketed (closed : ']' ∉ host) (after : List Char) :
    read? ('[' :: (host ++ ']' :: after)) =
      (portAfter? after).map fun port => (host, port) := by
  simp only [read?, dropWhile_ne_append closed, takeWhile_ne_append closed]

/-- Nothing is read where an opening bracket is not closed: `read?` is `none`. -/
theorem read?_unclosed {rest : List Char} (h : ']' ∉ rest) : read? ('[' :: rest) = none := by
  simp only [read?, dropWhile_ne_of_notMem h]

/-- Nothing is read where no host stands in front of a colon: `read?` is `none`. -/
theorem read?_colon (rest : List Char) : read? (':' :: rest) = none := by
  simp [read?]

/-- How a text that begins with no bracket is read: up to its first colon, which `takeWhile` and
`dropWhile` cut at. -/
theorem read?_unbracketed (ne_nil : text ≠ []) (unbracketed : text.head? ≠ some '[') :
    read? text =
      match text.dropWhile (· ≠ ':') with
      | [] => some (text, defaultPort)
      | _ :: digits =>
        if text.head? = some ':' then none
        else (port? digits).map fun port => (text.takeWhile (· ≠ ':'), port) := by
  unfold read?
  split
  · exact absurd rfl ne_nil
  · exact absurd rfl unbracketed
  · rfl

/-- What is read where a colon follows a host: the host, and the port that `digits` says, if they
say one. -/
theorem read?_bareWithPort (ne_nil : host ≠ []) (single : ':' ∉ host)
    (unbracketed : host.head? ≠ some '[') (digits : List Char) :
    read? (host ++ ':' :: digits) = (port? digits).map fun port => (host, port) := by
  have first : (host ++ ':' :: digits).head? = host.head? := by
    cases host with
    | nil => exact absurd rfl ne_nil
    | cons c rest => rfl
  have named : host.head? ≠ some ':' := fun begins =>
    single (List.mem_of_mem_head? (Option.mem_def.mpr begins))
  rw [read?_unbracketed (by simp) (first ▸ unbracketed), first, dropWhile_ne_append single,
    takeWhile_ne_append single]
  simp only [if_neg named]

/-- What is read where no colon follows: the host and `defaultPort`. -/
theorem read?_bare (ne_nil : host ≠ []) (single : ':' ∉ host)
    (unbracketed : host.head? ≠ some '[') : read? host = some (host, defaultPort) := by
  rw [read?_unbracketed ne_nil unbracketed, dropWhile_ne_of_notMem single]

/-- What follows a host in brackets: nothing, for `defaultPort`, or a colon and a port. -/
theorem portAfter?_eq_some_iff {after : List Char} :
    portAfter? after = some port ↔
      (after = [] ∧ port = defaultPort) ∨
        ∃ digits, after = ':' :: digits ∧ Numeral.Says digits port.toNat := by
  unfold portAfter?
  split
  · simp [eq_comm]
  · simp [port?_eq_some_iff]
  · rename_i nonempty other
    constructor
    · intro read
      cases read
    · rintro (⟨rfl, -⟩ | ⟨digits, rfl, -⟩)
      · exact absurd rfl nonempty
      · exact absurd rfl (other digits)

/-- **An address is read from its forms**, and from no other text: `read? text = some (host, port) ↔
Form text host port`. -/
theorem read?_eq_some_iff : read? text = some (host, port) ↔ Form text host port := by
  constructor
  · -- The cases are those of the reader: no text, brackets, a colon, none of these.
    intro read
    by_cases empty : text = []
    · subst empty
      cases read
    by_cases bracket : text.head? = some '['
    · obtain ⟨rest, rfl⟩ := List.head?_eq_some_iff.mp bracket
      by_cases closed : ']' ∈ rest
      · obtain ⟨inside, after, rfl, first⟩ := List.eq_append_cons_of_mem closed
        rw [read?_bracketed first, Option.map_eq_some_iff] at read
        obtain ⟨_, follows, same⟩ := read
        obtain ⟨rfl, rfl⟩ := Prod.mk.inj same
        obtain ⟨rfl, rfl⟩ | ⟨digits, rfl, said⟩ := portAfter?_eq_some_iff.mp follows
        · exact .bracketed first
        · exact .bracketedWithPort first said
      · rw [read?_unclosed closed] at read
        cases read
    · by_cases colon : ':' ∈ text
      · obtain ⟨front, digits, rfl, first⟩ := List.eq_append_cons_of_mem colon
        cases front with
        | nil =>
          rw [List.nil_append, read?_colon] at read
          cases read
        | cons c front =>
          rw [read?_bareWithPort (List.cons_ne_nil c front) first bracket,
            Option.map_eq_some_iff] at read
          obtain ⟨_, said, same⟩ := read
          obtain ⟨rfl, rfl⟩ := Prod.mk.inj same
          exact .bareWithPort (List.cons_ne_nil c front) first bracket
            (port?_eq_some_iff.mp said)
      · rw [read?_bare empty colon bracket] at read
        obtain ⟨rfl, rfl⟩ := Prod.mk.inj (Option.some.inj read)
        exact .bare empty colon bracket
  · intro form
    cases form with
    | bracketed closed => rw [read?_bracketed closed]; rfl
    | bracketedWithPort closed said =>
      rw [read?_bracketed closed, portAfter?, port?_eq_some_iff.mpr said, Option.map_some]
    | bare ne_nil single unbracketed => exact read?_bare ne_nil single unbracketed
    | bareWithPort ne_nil single unbracketed said =>
      rw [read?_bareWithPort ne_nil single unbracketed, port?_eq_some_iff.mpr said,
        Option.map_some]

/-- What is parsed as an address, which has no candidates of its own: `parse text = .ok address`
exactly if `Form` and `candidates = none`. -/
theorem parse_eq_ok_iff {text : String} {address : Address} :
    parse text = .ok address ↔
      Form text.toList address.host.toList address.port ∧ address.candidates = none := by
  rw [← read?_eq_some_iff]
  unfold parse
  constructor
  · intro parsed
    split at parsed
    · rename_i host port read
      obtain rfl := Except.ok.inj parsed
      rw [String.toList_ofList]
      exact ⟨read, rfl⟩
    · cases parsed
  · rintro ⟨read, unpinned⟩
    obtain ⟨host, port, candidates⟩ := address
    obtain rfl : candidates = none := unpinned
    simp only [read, String.ofList_toList]

/-! ## Reading back -/

/-- **A host that can be written** in front of a port: it is not empty and does not begin with a
bracket. -/
def Plain (host : List Char) : Prop := host ≠ [] ∧ host.head? ≠ some '['

theorem not_plain_iff : ¬Plain host ↔ host = [] ∨ host.head? = some '[' := by
  rw [Plain, Decidable.not_and_iff_not_or_not, Decidable.not_not, Decidable.not_not]

/-- A host that is read closes no bracket unless it is plain and has no colon: `']' ∉ host` in the
forms with brackets. -/
theorem Form.unclosed (form : Form text host port) (h : ':' ∈ host ∨ ¬Plain host) :
    ']' ∉ host := by
  cases form with
  | bracketed closed => exact closed
  | bracketedWithPort closed => exact closed
  | bare ne_nil single unbracketed =>
    exact h.elim (absurd · single) (absurd ⟨ne_nil, unbracketed⟩ ·)
  | bareWithPort ne_nil single unbracketed =>
    exact h.elim (absurd · single) (absurd ⟨ne_nil, unbracketed⟩ ·)

/-- **A plain host is written in a form of its address**, if it closes none of the brackets that are
written around it: `Form (written host port) host port`. -/
theorem form_written (plain : Plain host) (unclosed : ':' ∈ host → ']' ∉ host) (port : UInt16) :
    Form (written host port) host port := by
  have said : Numeral.Says (digitsText port.toNat) port.toNat :=
    Or.inl (Numeral.spells_digitsText port.toNat)
  rw [written, hostText]
  -- Brackets are written around a host exactly if it has a colon.
  by_cases colon : ':' ∈ host
  · have layout : '[' :: host ++ [']'] ++ ':' :: digitsText port.toNat =
        '[' :: (host ++ ']' :: ':' :: digitsText port.toNat) := by simp
    rw [if_pos ⟨colon, plain.2⟩, layout]
    exact .bracketedWithPort (unclosed colon) said
  · rw [if_neg fun both => colon both.1]
    exact .bareWithPort plain.1 colon plain.2 said

/-- No bracket is closed in a port: `']' ∉ digitsText n`. -/
theorem bracket_notMem_digitsText (n : Nat) : ']' ∉ digitsText n := fun listed =>
  absurd ((Numeral.spells_digitsText n).isDigit ']' listed) (by decide)

/-- **Any other host is written in no form**, if it closes no bracket: `read?` of
`written host port` is `none`. -/
theorem read?_written_of_not_plain (h : ¬Plain host) (unclosed : ']' ∉ host) (port : UInt16) :
    read? (written host port) = none := by
  have unwrapped : hostText host = host := by
    rw [hostText, if_neg]
    rintro ⟨colon, unbracketed⟩
    exact h ⟨List.ne_nil_of_mem colon, unbracketed⟩
  rw [written, unwrapped]
  rcases not_plain_iff.mp h with rfl | bracket
  · exact read?_colon _
  · obtain ⟨rest, rfl⟩ := List.head?_eq_some_iff.mp bracket
    refine read?_unclosed fun closed => ?_
    rcases List.mem_append.mp closed with inside | after
    · exact unclosed (List.mem_cons_of_mem _ inside)
    · exact bracket_notMem_digitsText _ (List.mem_of_ne_of_mem (by decide) after)

/-- A text that begins with a bracket begins with another character behind it if that is the first
one of the host, or the closing bracket of no host: when `['[', c]` is a prefix. -/
theorem pair_prefix_iff (after : List Char) {c : Char} :
    ['[', c] <+: '[' :: (host ++ ']' :: after) ↔
      host.head? = some c ∨ host = [] ∧ c = ']' := by
  cases host with
  | nil => simp
  | cons first rest => simp [eq_comm]

/-- A text that begins with no bracket does not begin with a bracket and a character: `['[', c]` is
no prefix of it. -/
theorem not_pair_prefix {c : Char} (unbracketed : text.head? ≠ some '[') :
    ¬['[', c] <+: text := by
  rintro ⟨rest, rfl⟩
  exact unbracketed rfl

/-- How an address begins whose host is not plain: `[]` if nothing stands in its brackets, `[[` if
they hold another bracket first. -/
theorem Form.begins (form : Form text host port) :
    (host = [] ↔ ['[', ']'] <+: text) ∧ (host.head? = some '[' ↔ ['[', '['] <+: text) := by
  have enclosed {after : List Char} (closed : ']' ∉ host) :
      (host = [] ↔ ['[', ']'] <+: '[' :: (host ++ ']' :: after)) ∧
        (host.head? = some '[' ↔ ['[', '['] <+: '[' :: (host ++ ']' :: after)) := by
    have first : host.head? ≠ some ']' := fun begins =>
      closed (List.mem_of_mem_head? (Option.mem_def.mpr begins))
    rw [pair_prefix_iff, pair_prefix_iff]
    simp [first]
  have unenclosed (ne_nil : host ≠ []) (unbracketed : host.head? ≠ some '[')
      (same : text.head? = host.head?) :
      (host = [] ↔ ['[', ']'] <+: text) ∧ (host.head? = some '[' ↔ ['[', '['] <+: text) := by
    have other {c : Char} : ¬['[', c] <+: text := not_pair_prefix (same ▸ unbracketed)
    simp [ne_nil, unbracketed, other]
  cases form with
  | bracketed closed => exact enclosed closed
  | bracketedWithPort closed => exact enclosed closed
  | bare ne_nil single unbracketed => exact unenclosed ne_nil unbracketed rfl
  | bareWithPort ne_nil single unbracketed =>
    refine unenclosed ne_nil unbracketed ?_
    cases host with
    | nil => exact absurd rfl ne_nil
    | cons c rest => rfl

/-- **Which addresses read back.** An address that was read is read again as it is written, unless
its text begins with two brackets: an opening and a closing one, between which there is no host, or
two opening ones, the second of which belongs to the host. Then what is written is no address. -/
theorem text_reads_back (text : String) (address : Address) (h : parse text = .ok address) :
    (address.host = "" ↔ ['[', ']'] <+: text.toList) ∧
      (address.host.toList.head? = some '[' ↔ ['[', '['] <+: text.toList) ∧
      parse address.text =
        if ['[', ']'] <+: text.toList ∨ ['[', '['] <+: text.toList then
          .error (.invalidAddress address.text)
        else .ok address := by
  obtain ⟨form, unpinned⟩ := parse_eq_ok_iff.mp h
  obtain ⟨empty, bracket⟩ := form.begins
  have unnamed : address.host = "" ↔ address.host.toList = [] := String.toList_eq_nil_iff.symm
  refine ⟨unnamed.trans empty, bracket, ?_⟩
  have odd := not_plain_iff.trans (or_congr empty bracket)
  by_cases plain : Plain address.host.toList
  · rw [if_neg (fun begins => odd.mpr begins plain), parse_eq_ok_iff, Address.text,
      String.toList_ofList]
    exact ⟨form_written plain (fun colon => form.unclosed (Or.inl colon)) address.port, unpinned⟩
  · have refused := read?_written_of_not_plain plain (form.unclosed (Or.inr plain)) address.port
    rw [if_pos (odd.mp plain), parse, Address.text, String.toList_ofList, refused]

/-- A version 6 address with a zone, and with a sign and zeros in front of its port. -/
theorem text_reads_back_zoned :
    ∃ address, parse "[fe80::1%eth0]:+009" = .ok address ∧ address.text = "[fe80::1%eth0]:9" ∧
      parse address.text = .ok address := by
  refine ⟨⟨"fe80::1%eth0", 9, none⟩, rfl, rfl, ?_⟩
  rw [(text_reads_back "[fe80::1%eth0]:+009" ⟨"fe80::1%eth0", 9, none⟩ rfl).2.2]
  exact if_neg (by decide)

/-- **An address without a host is read**, and so is one whose host begins with a bracket. What is
written of them is refused. -/
theorem emptyBrackets_refused_as_written :
    parse "[]:5" = .ok ⟨"", 5, none⟩ ∧ Address.text ⟨"", 5, none⟩ = ":5" ∧
      parse ":5" = .error (.invalidAddress ":5") ∧
    parse "[[::1]:5" = .ok ⟨"[::1", 5, none⟩ ∧ Address.text ⟨"[::1", 5, none⟩ = "[::1:5" ∧
      parse "[::1:5" = .error (.invalidAddress "[::1:5") :=
  ⟨rfl, rfl, rfl, rfl, rfl, rfl⟩

/-! ## The grammar and what is written -/

/-- **A text is an address in at most one way**: `Form text` holds of one host and one port. -/
theorem Form.unique {other : List Char} {otherPort : UInt16} (form : Form text host port)
    (again : Form text other otherPort) : host = other ∧ port = otherPort := by
  have same := (read?_eq_some_iff.mpr form).symm.trans (read?_eq_some_iff.mpr again)
  exact Prod.mk.inj (Option.some.inj same)

/-- **A text that is refused is in no form**, and it is reported as it is, by
`.invalidAddress text`. -/
theorem parse_eq_error_iff {text : String} {error : ProtocolError} :
    parse text = .error error ↔
      (∀ host port, ¬Form text.toList host port) ∧ error = .invalidAddress text := by
  unfold parse
  cases read : read? text.toList with
  | none =>
    have formless : ∀ host port, ¬Form text.toList host port := fun host port form => by
      cases read.symm.trans (read?_eq_some_iff.mpr form)
    constructor
    · intro refused
      exact ⟨formless, (Except.error.inj refused).symm⟩
    · rintro ⟨-, rfl⟩
      rfl
  | some found =>
    obtain ⟨host, port⟩ := found
    refine iff_of_false nofun ?_
    rintro ⟨formless, -⟩
    exact formless host port (read?_eq_some_iff.mp read)

/-- **What is written of a host and a port is one of their forms** exactly if the host is plain and
closes none of the brackets that are written around it: `written` uses brackets if there is a
colon. -/
theorem form_written_iff :
    Form (written host port) host port ↔ Plain host ∧ (':' ∈ host → ']' ∉ host) := by
  constructor
  · intro form
    have plain : Plain host := by
      refine Classical.byContradiction fun odd => ?_
      have refused := read?_written_of_not_plain odd (form.unclosed (Or.inr odd)) port
      cases refused.symm.trans (read?_eq_some_iff.mpr form)
    exact ⟨plain, fun colon => form.unclosed (Or.inl colon)⟩
  · rintro ⟨plain, unclosed⟩
    exact form_written plain unclosed port

/-- **Which hosts and ports read back**: those that are written in a form of theirs, by
`form_written_iff`. The port is no matter. -/
theorem parse_text_iff {host : String} {port : UInt16} :
    parse (Address.text ⟨host, port, none⟩) = .ok ⟨host, port, none⟩ ↔
      Plain host.toList ∧ (':' ∈ host.toList → ']' ∉ host.toList) := by
  rw [parse_eq_ok_iff, Address.text, String.toList_ofList, form_written_iff]
  exact and_iff_left rfl

/-- **The reader accepts its forms and nothing else.** A text is parsed as an address with the host
and the port of its form, which are the only ones that it has; a text in no form is refused and
reported as it is. So every port is read back with every host that is not empty and has no brackets,
whether or not it has colons. -/
theorem parse_exact (text : String) :
    ((∃ address, parse text = .ok address) ↔ ∃ host port, Form text.toList host port) ∧
      (∀ host port, Form text.toList host port →
        parse text = .ok ⟨String.ofList host, port, none⟩ ∧
          ∀ other otherPort, Form text.toList other otherPort → other = host ∧ otherPort = port) ∧
      (∀ error, parse text = .error error → error = .invalidAddress text) ∧
      ∀ (host : String) (port : UInt16), host ≠ "" → '[' ∉ host.toList → ']' ∉ host.toList →
        parse (Address.text ⟨host, port, none⟩) = .ok ⟨host, port, none⟩ := by
  have parsed : ∀ host port, Form text.toList host port →
      parse text = .ok ⟨String.ofList host, port, none⟩ := by
    intro host port form
    rw [parse_eq_ok_iff, String.toList_ofList]
    exact ⟨form, rfl⟩
  refine ⟨⟨?accepted, ?formed⟩, ?unique, fun error refused => ?refused, ?written⟩
  case accepted =>
    rintro ⟨address, accepted⟩
    exact ⟨_, _, (parse_eq_ok_iff.mp accepted).1⟩
  case formed =>
    rintro ⟨host, port, form⟩
    exact ⟨_, parsed host port form⟩
  case unique =>
    intro host port form
    exact ⟨parsed host port form, fun other otherPort again => again.unique form⟩
  case refused => exact (parse_eq_error_iff.mp refused).2
  case written =>
    intro host port named unopened unclosed
    have ne_nil : host.toList ≠ [] := fun empty => named (String.toList_eq_nil_iff.mp empty)
    have unbracketed : host.toList.head? ≠ some '[' := fun begins =>
      unopened (List.mem_of_mem_head? (Option.mem_def.mpr begins))
    exact parse_text_iff.mpr ⟨⟨ne_nil, unbracketed⟩, fun _ => unclosed⟩

/-- A text with a sign and zeros in front of its port is in a form, a port that is too large is
refused, and a host with colons reads back. -/
theorem parse_exact_cluster :
    parse "[fe80::1]:+00065535" = .ok ⟨"fe80::1", 65535, none⟩ ∧
      parse "cluster:65536" = .error (.invalidAddress "cluster:65536") ∧
      parse (Address.text ⟨"fe80::1", 65535, none⟩) = .ok ⟨"fe80::1", 65535, none⟩ := by
  obtain ⟨-, formed, -, written⟩ := parse_exact "[fe80::1]:+00065535"
  obtain ⟨-, -, reported, -⟩ := parse_exact "cluster:65536"
  have closed : ']' ∉ "fe80::1".toList := by decide
  have said : Numeral.Says "+00065535".toList (65535 : UInt16).toNat :=
    Or.inr ⟨"00065535".toList, rfl, Numeral.digits?_eq_some_iff.mp rfl⟩
  have form : Form "[fe80::1]:+00065535".toList "fe80::1".toList 65535 :=
    .bracketedWithPort closed said
  refine ⟨(formed _ _ form).1, ?_, written "fe80::1" 65535 (by decide) (by decide) (by decide)⟩
  cases read : parse "cluster:65536" with
  | error error => rw [reported error read]
  | ok address => cases read

end DocumentCursor.Net.Address
