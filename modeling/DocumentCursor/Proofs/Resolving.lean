import DocumentCursor.Proofs.Addresses
import DocumentCursor.Proofs.Literals

/-! # Addresses that are made of sockets

The address of a socket has the socket's internet address for a host. It is written with brackets
around the host exactly if that is of version 6, and read without them, so that the host names the
same internet address again, for which no name service is asked. What a text does not show is lost:
the pinned candidate, and with it the scope.

* **`socketAddresses_of_literal`**: an internet address stands for itself.
* **`parse_ofSocket`**: the address of a socket reads back, without its pinned candidate.
* **`socket_reads_back`**: and so does the socket, but for its scope.
-/

namespace DocumentCursor.Net.Address

variable {address : Address} {lookup : List Char → UInt16 → Except SystemError (List SocketAddress)}

/-! ## Internet addresses as hosts -/

/-- No bracket is part of an internet address: neither `'['` nor `']'` is in `ip.text`. -/
theorem bracket_notMem_text (ip : Ip) : '[' ∉ ip.text.toList ∧ ']' ∉ ip.text.toList :=
  ⟨fun opened => absurd (Ip.literal_of_mem_text opened) (by decide),
    fun closed => absurd (Ip.literal_of_mem_text closed) (by decide)⟩

/-- An internet address can be written in front of a port: its text is `Plain`. -/
theorem plain_text (ip : Ip) : Plain ip.text.toList := by
  refine ⟨fun empty => ?_, fun begins => ?_⟩
  · have read := ip.read?_text
    rw [empty] at read
    cases read
  · exact (bracket_notMem_text ip).1 (List.mem_of_mem_head? (Option.mem_def.mpr begins))

/-- Nothing is dropped of a text that does not have the character: `dropWhile (· == c)` is the
text. -/
theorem dropWhile_beq_of_notMem {text : List Char} {c : Char} (h : c ∉ text) :
    text.dropWhile (· == c) = text := by
  cases text with
  | nil => rfl
  | cons first rest =>
    have other : ¬(first == c) = true := fun same =>
      h (beq_iff_eq.mp same ▸ List.mem_cons_self)
    exact List.dropWhile_cons_of_neg other

/-- A host without brackets is bare: `bareHost` leaves it as it is. -/
theorem bareHost_of_notMem {host : List Char} (unopened : '[' ∉ host) (unclosed : ']' ∉ host) :
    bareHost host = host := by
  have backwards : ']' ∉ host.reverse := fun closed => unclosed (List.mem_reverse.mp closed)
  rw [bareHost, dropWhile_beq_of_notMem unopened, dropWhile_beq_of_notMem backwards,
    List.reverse_reverse]

/-- **An internet address stands for itself**, whatever the name service: `socketAddresses` is that
address with the port, and nothing is looked up. -/
theorem socketAddresses_of_literal {ip : Ip} (unpinned : address.candidates = none)
    (literal : address.host = ip.text) :
    address.socketAddresses lookup = .ok [⟨ip, address.port, 0⟩] := by
  obtain ⟨unopened, unclosed⟩ := bracket_notMem_text ip
  simp only [socketAddresses, unpinned, literal, bareHost_of_notMem unopened unclosed,
    Ip.read?_text]

/-! ## Sockets -/

/-- The address of a socket reads back, without its pinned candidate: `parse` of its text has
`candidates = none`. -/
theorem parse_ofSocket (socket : SocketAddress) :
    parse (ofSocket socket).text = .ok ⟨socket.ip.text, socket.port, none⟩ :=
  parse_text_iff.mpr ⟨plain_text socket.ip, fun _ => (bracket_notMem_text socket.ip).2⟩

/-- **A socket reads back** from the text of its address, but for its scope, whatever the name
service. The address that is read has no pinned candidates, and resolves to exactly one socket: that
with the same internet address and port. It is the same socket exactly if that has no scope, as none
of version 4 has. Flow information, which no text shows either, is no part of a socket here. -/
theorem socket_reads_back (socket : SocketAddress)
    (lookup : List Char → UInt16 → Except SystemError (List SocketAddress)) :
    ∃ address, parse (ofSocket socket).text = .ok address ∧ address.candidates = none ∧
      address.socketAddresses lookup = .ok [{ socket with scope := 0 }] ∧
      (address.socketAddresses lookup = .ok [socket] ↔ socket.scope = 0) := by
  have resolved : (⟨socket.ip.text, socket.port, none⟩ : Address).socketAddresses lookup =
      .ok [{ socket with scope := 0 }] := socketAddresses_of_literal rfl rfl
  refine ⟨_, parse_ofSocket socket, rfl, resolved, ?_⟩
  rw [resolved]
  constructor
  · intro same
    have scopes := congrArg SocketAddress.scope (List.head_eq_of_cons_eq (Except.ok.inj same))
    exact scopes.symm
  · intro unscoped
    rw [← unscoped]

end DocumentCursor.Net.Address
