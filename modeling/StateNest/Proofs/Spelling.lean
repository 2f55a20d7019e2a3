import StateNest.Text.Escaped

/-!
# What typed lines spell

A line is made of pieces: symbols that stand for themselves, and letters with a
backslash before them. It is so in one way only, up to its end or to a backslash
that starts no piece. In the first case it is decoded, piece by piece; in the second
what comes after the backslash tells what is wrong.
-/

set_option autoImplicit false

namespace StateNest.Escaped

def named : List (Char × UInt8) :=
  [('0', 0x00), ('a', 0x07), ('b', 0x08), ('t', 0x09), ('n', 0x0A), ('v', 0x0B), ('f', 0x0C),
    ('r', 0x0D), ('\\', 0x5C)]

inductive Piece where
  | plain (symbol : Char) (hs : symbol ≠ '\\')
  | escape (letter : Char) (byte : UInt8) (hn : (letter, byte) ∈ named)

namespace Piece

def text : Piece → List Char
  | plain symbol _ => [symbol]
  | escape letter _ _ => ['\\', letter]

def bytes : Piece → List UInt8
  | plain symbol _ => String.utf8EncodeChar symbol
  | escape _ byte _ => [byte]

def symbol : Piece → Char
  | plain symbol _ => symbol
  | escape _ byte _ => Char.ofNat byte.toNat

end Piece

def spelling (pieces : List Piece) : List Char := pieces.flatMap Piece.text

def meaning (pieces : List Piece) : List UInt8 := pieces.flatMap Piece.bytes

theorem spelling_cons (piece : Piece) (pieces : List Piece) :
    spelling (piece :: pieces) = piece.text ++ spelling pieces := List.flatMap_cons

theorem meaning_cons (piece : Piece) (pieces : List Piece) :
    meaning (piece :: pieces) = piece.bytes ++ meaning pieces := List.flatMap_cons

theorem spelling_eq_nil_iff {pieces : List Piece} : spelling pieces = [] ↔ pieces = [] := by
  cases pieces with
  | nil => exact iff_of_true rfl rfl
  | cons piece pieces =>
    rw [spelling_cons]
    cases piece <;> simp [Piece.text]

/-- What comes after the last piece of a line, and what is wrong with it. -/
inductive Tail : List Char → Option EscapeError → Prop
  | done : Tail [] none
  | dangling : Tail ['\\'] (some .dangling)
  | unrecognized (letter : Char) (later : List Char) (hn : ∀ byte, (letter, byte) ∉ named) :
      Tail ('\\' :: letter :: later) (some (.unrecognized letter))

theorem controls_subset_named : controls ⊆ named := by decide

theorem byte?_eq_some_iff {letter : Char} {byte : UInt8} :
    byte? letter = some byte ↔ (letter, byte) ∈ named := by
  constructor
  · intro h
    rw [byte?] at h
    split at h
    · next hl =>
      rw [hl, ← Option.some.inj h]
      decide
    · obtain ⟨before, after, hc, -⟩ := List.lookup_eq_some_iff.mp h
      have hin : (letter, byte) ∈ controls := by
        rw [hc]
        exact List.mem_append_cons_self
      exact controls_subset_named hin
  · have hall : ∀ entry ∈ named, byte? entry.1 = some entry.2 := by decide
    exact fun h => hall (letter, byte) h

theorem byte?_eq_none_iff {letter : Char} :
    byte? letter = none ↔ ∀ byte, (letter, byte) ∉ named := by
  simp only [Option.eq_none_iff_forall_ne_some, Ne, byte?_eq_some_iff]

theorem decode_plain {symbol : Char} (hs : symbol ≠ '\\') (rest : List Char) :
    decode (symbol :: rest) = (decode rest).map (String.utf8EncodeChar symbol ++ ·) := by
  rw [decode]
  · rintro rfl
    exact absurd rfl hs
  · rintro letter rest rfl
    exact absurd rfl hs

theorem decode_escape {letter : Char} {byte : UInt8} (hn : (letter, byte) ∈ named)
    (rest : List Char) : decode ('\\' :: letter :: rest) = (decode rest).map (byte :: ·) := by
  rw [decode, byte?_eq_some_iff.mpr hn]

theorem decode_piece (piece : Piece) (rest : List Char) :
    decode (piece.text ++ rest) = (decode rest).map (piece.bytes ++ ·) := by
  cases piece with
  | plain symbol hs => exact decode_plain hs rest
  | escape letter byte hn => exact decode_escape hn rest

theorem decode_tail {rest : List Char} {cause : EscapeError} (h : Tail rest (some cause)) :
    decode rest = .error cause := by
  cases h with
  | dangling => rfl
  | unrecognized letter later hn => rw [decode, byte?_eq_none_iff.mpr hn]

theorem decode_spelling (pieces : List Piece) (rest : List Char) :
    decode (spelling pieces ++ rest) = (decode rest).map (meaning pieces ++ ·) := by
  induction pieces with
  | nil =>
    change decode rest = (decode rest).map fun bytes => bytes
    cases decode rest <;> rfl
  | cons piece pieces ih =>
    rw [spelling_cons, meaning_cons, List.append_assoc, decode_piece, ih]
    cases decode rest with
    | error cause => rfl
    | ok bytes => exact congrArg Except.ok (List.append_assoc _ _ _).symm

theorem exists_pieces (line : List Char) :
    ∃ pieces rest fault, line = spelling pieces ++ rest ∧ Tail rest fault := by
  fun_induction decode line with
  | case1 => exact ⟨[], [], none, rfl, Tail.done⟩
  | case2 => exact ⟨[], ['\\'], _, rfl, Tail.dangling⟩
  | case3 letter rest byte hb ih =>
    obtain ⟨pieces, tail, fault, rfl, ht⟩ := ih
    exact ⟨.escape letter byte (byte?_eq_some_iff.mp hb) :: pieces, tail, fault, rfl, ht⟩
  | case4 letter rest hb =>
    exact ⟨[], _, _, rfl, Tail.unrecognized letter rest (byte?_eq_none_iff.mp hb)⟩
  | case5 symbol rest hone htwo ih =>
    have hs : symbol ≠ '\\' := by
      rintro rfl
      cases rest with
      | nil => exact hone rfl rfl
      | cons letter rest => exact htwo letter rest rfl rfl
    obtain ⟨pieces, tail, fault, rfl, ht⟩ := ih
    exact ⟨.plain symbol hs :: pieces, tail, fault, rfl, ht⟩

theorem piece_unique {piece other : Piece} {rest rest' : List Char}
    (h : piece.text ++ rest = other.text ++ rest') : piece = other ∧ rest = rest' := by
  cases piece with
  | plain symbol hs =>
    cases other with
    | plain symbol' hs' =>
      obtain ⟨rfl, rfl⟩ := List.cons.inj h
      exact ⟨rfl, rfl⟩
    | escape letter byte hn => exact absurd (List.cons.inj h).1 hs
  | escape letter byte hn =>
    cases other with
    | plain symbol hs => exact absurd (List.cons.inj h).1.symm hs
    | escape letter' byte' hn' =>
      obtain ⟨-, h⟩ := List.cons.inj h
      obtain ⟨rfl, rfl⟩ := List.cons.inj h
      have hb : some byte = some byte' := by
        rw [← byte?_eq_some_iff.mpr hn, byte?_eq_some_iff.mpr hn']
      obtain rfl := Option.some.inj hb
      exact ⟨rfl, rfl⟩

theorem Tail.not_piece {piece : Piece} {rest : List Char} {fault : Option EscapeError} :
    ¬ Tail (piece.text ++ rest) fault := by
  intro h
  cases piece with
  | plain symbol hs =>
    cases h with
    | dangling => exact hs rfl
    | unrecognized letter later hn => exact hs rfl
  | escape letter byte hn =>
    cases h with
    | unrecognized letter later hout => exact hout byte hn

theorem pieces_unique {pieces others : List Piece} {rest rest' : List Char}
    {fault fault' : Option EscapeError} (ht : Tail rest fault) (ht' : Tail rest' fault')
    (h : spelling pieces ++ rest = spelling others ++ rest') : pieces = others ∧ rest = rest' := by
  induction pieces generalizing others with
  | nil =>
    cases others with
    | nil => exact ⟨rfl, h⟩
    | cons other others =>
      rw [spelling_cons, List.append_assoc] at h
      obtain rfl : rest = _ := h
      exact absurd ht Tail.not_piece
  | cons piece pieces ih =>
    rw [spelling_cons, List.append_assoc] at h
    cases others with
    | nil =>
      obtain rfl : _ = rest' := h
      exact absurd ht' Tail.not_piece
    | cons other others =>
      rw [spelling_cons, List.append_assoc] at h
      obtain ⟨rfl, hrest⟩ := piece_unique h
      obtain ⟨rfl, rfl⟩ := ih hrest
      exact ⟨rfl, rfl⟩

theorem bytes_eq_encode (piece : Piece) : piece.bytes = String.utf8EncodeChar piece.symbol := by
  cases piece with
  | plain symbol hs => rfl
  | escape letter byte hn =>
    -- All that letters name is below 0x80, where a symbol is encoded as itself.
    have hall : ∀ entry ∈ named,
        [entry.2] = String.utf8EncodeChar (Char.ofNat entry.2.toNat) := by decide
    exact hall (letter, byte) hn

theorem meaning_eq_encode (pieces : List Piece) :
    meaning pieces = (pieces.map Piece.symbol).flatMap String.utf8EncodeChar := by
  rw [meaning, List.flatMap_map]
  exact congrArg (List.flatMap · pieces) (funext bytes_eq_encode)

theorem encoded_eq (text : String) :
    text.toUTF8.data.toList = text.toList.flatMap String.utf8EncodeChar := by
  rw [String.toUTF8_eq_toByteArray, ← String.utf8Encode_toList, List.utf8Encode,
    List.data_toByteArray]

theorem decode_ok_iff {line : List Char} {bytes : List UInt8} :
    decode line = .ok bytes ↔ ∃ pieces, line = spelling pieces ∧ bytes = meaning pieces := by
  constructor
  · intro h
    obtain ⟨pieces, rest, fault, rfl, ht⟩ := exists_pieces line
    rw [decode_spelling] at h
    cases fault with
    | none =>
      cases ht
      refine ⟨pieces, List.append_nil _, ?_⟩
      exact (Except.ok.inj h).symm.trans (List.append_nil _)
    | some cause =>
      rw [decode_tail ht] at h
      cases h
  · rintro ⟨pieces, rfl, rfl⟩
    have h := decode_spelling pieces []
    rw [List.append_nil] at h
    rw [h]
    exact congrArg Except.ok (List.append_nil _)

theorem decode_error_iff {line : List Char} {cause : EscapeError} :
    decode line = .error cause ↔
      ∃ pieces rest, line = spelling pieces ++ rest ∧ Tail rest (some cause) := by
  constructor
  · intro h
    obtain ⟨pieces, rest, fault, rfl, ht⟩ := exists_pieces line
    refine ⟨pieces, rest, rfl, ?_⟩
    rw [decode_spelling] at h
    cases fault with
    | none =>
      cases ht
      cases h
    | some found =>
      rw [decode_tail ht] at h
      obtain rfl := Except.error.inj h
      exact ht
  · rintro ⟨pieces, rest, rfl, ht⟩
    rw [decode_spelling, decode_tail ht]
    rfl

theorem decode_append {line : List Char} {bytes : List UInt8} (h : decode line = .ok bytes)
    (later : List Char) : decode (line ++ later) = (decode later).map (bytes ++ ·) := by
  obtain ⟨pieces, rfl, rfl⟩ := decode_ok_iff.mp h
  exact decode_spelling pieces later

/-- A line is decoded exactly if it is made of pieces, and then to the bytes of the pieces; it has
these pieces only. Otherwise the error tells of the backslash that comes after them. So a decoded
line is decoded on its own, whatever comes after it, into the encoding of a text, and each text can
be spelled by any pieces that stand for its symbols. -/
theorem decode_follows_pieces (line : List Char) :
    (∀ bytes, decode line = .ok bytes ↔
      ∃ pieces, line = spelling pieces ∧ bytes = meaning pieces) ∧
    (∀ cause, decode line = .error cause ↔
      ∃ pieces rest, line = spelling pieces ++ rest ∧ Tail rest (some cause)) ∧
    (∀ pieces others rest rest' fault fault', Tail rest fault → Tail rest' fault' →
      line = spelling pieces ++ rest → line = spelling others ++ rest' →
      pieces = others ∧ rest = rest') ∧
    (∀ bytes later, decode line = .ok bytes →
      decode (line ++ later) = (decode later).map (bytes ++ ·)) ∧
    (∀ bytes, decode line = .ok bytes → bytes.toByteArray.IsValidUTF8) ∧
    ∀ (text : String) (pieces : List Piece), pieces.map Piece.symbol = text.toList →
      decode (spelling pieces) = .ok text.toUTF8.data.toList := by
  refine ⟨fun bytes => decode_ok_iff, fun cause => decode_error_iff, ?_, ?_, ?_, ?_⟩
  · intro pieces others rest rest' fault fault' ht ht' h h'
    exact pieces_unique ht ht' (h.symm.trans h')
  · exact fun bytes later h => decode_append h later
  · intro bytes h
    obtain ⟨pieces, -, rfl⟩ := decode_ok_iff.mp h
    exact ⟨pieces.map Piece.symbol, by rw [meaning_eq_encode, List.utf8Encode]⟩
  · intro text pieces h
    have hbytes : text.toUTF8.data.toList = meaning pieces := by
      rw [meaning_eq_encode, h, encoded_eq]
    exact decode_ok_iff.mpr ⟨pieces, rfl, hbytes⟩

/-- Of two backslashes the second is spelled by both, and does not belong to what comes after. -/
theorem backslash_follows_pieces :
    decode ['\\', '\\', 't'] = .ok [0x5C, 0x74] ∧
    (∀ pieces, spelling pieces = ['\\', '\\', 't'] →
      pieces = [.escape '\\' 0x5C (by decide), .plain 't' (by decide)]) ∧
    decode ['\\', '\\', 't', '\\', 'q', '\\'] = .error (.unrecognized 'q') ∧
    [(0x5C : UInt8), 0x74].toByteArray.IsValidUTF8 ∧
    (Except.ok [0x5C, 0x74] : Except EscapeError (List UInt8)) = .ok "\\t".toUTF8.data.toList := by
  have hd : decode ['\\', '\\', 't'] = .ok [0x5C, 0x74] := rfl
  obtain ⟨-, -, hunique, happend, hvalid, hspelled⟩ := decode_follows_pieces ['\\', '\\', 't']
  refine ⟨hd, ?_, happend _ ['\\', 'q', '\\'] hd, hvalid _ hd, ?_⟩
  · intro pieces h
    exact (hunique pieces _ [] [] none none Tail.done Tail.done (by simp [h]) rfl).1
  · exact hspelled "\\t" [.escape '\\' 0x5C (by decide), .plain 't' (by decide)] (by decide)

end StateNest.Escaped
