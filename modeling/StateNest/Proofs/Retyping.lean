import StateNest.Proofs.Lines

/-!
# What is shown can be typed again

A session shows each byte that it takes, a control by its escape and any other byte by
the symbol of its code. Below 0x80 a symbol is encoded as its code, so that what is shown
of a byte is a piece that stands for this byte, unless the byte is a backslash. The pieces
of several bytes then make a line that has no other pieces, and that is read as it stands.
-/

set_option autoImplicit false

namespace StateNest

namespace Escaped

def Shows (byte : UInt8) (text : String) : Prop :=
  describe byte = toString byte.toNat ++ ":" ++ text

def Typable (byte : UInt8) : Prop := byte < 0x80 ∧ byte ≠ 0x5C

theorem shows_iff {byte : UInt8} {text : String} : Shows byte text ↔ text = spell byte := by
  rw [Shows, describe, String.append_right_inj]
  exact eq_comm

theorem forall₂_shows_iff {bytes : List UInt8} {texts : List String} :
    List.Forall₂ Shows bytes texts ↔ texts = bytes.map spell := by
  constructor
  · intro h
    induction h with
    | nil => rfl
    | cons hs _ ih => rw [List.map_cons, shows_iff.mp hs, ih]
  · rintro rfl
    exact List.forall₂_map_right_iff.mpr (List.forall₂_same.mpr fun _ _ => shows_iff.mpr rfl)

theorem spell_cases (byte : UInt8) :
    (∃ letter, (letter, byte) ∈ controls ∧ (spell byte).toList = ['\\', letter]) ∨
      (∀ entry ∈ controls, entry.2 ≠ byte) ∧
        (spell byte).toList = [Char.ofNat byte.toNat] := by
  rw [spell]
  cases h : controls.find? (·.2 = byte) with
  | some entry =>
    obtain ⟨letter, found⟩ := entry
    obtain rfl : found = byte := by simpa using List.find?_some h
    exact Or.inl ⟨letter, List.mem_of_find?_eq_some h, by simp⟩
  | none => exact Or.inr ⟨by simpa using h, by simp⟩

section Typable

variable {byte : UInt8} (h : Typable byte)
include h

theorem Typable.encode : String.utf8EncodeChar (Char.ofNat byte.toNat) = [byte] := by
  have hall : ∀ code < 0x80, String.utf8EncodeChar (Char.ofNat code) = [UInt8.ofNat code] := by
    decide
  rw [hall byte.toNat h.1, UInt8.ofNat_toNat]

/-- No two of these bytes have the same symbol. -/
theorem Typable.symbol_ne (symbol : Char) {code : UInt8}
    (hs : String.utf8EncodeChar symbol = [code]) (hne : code ≠ byte) :
    Char.ofNat byte.toNat ≠ symbol := by
  rintro rfl
  exact hne (List.singleton_inj.mp (hs.symm.trans h.encode))

theorem Typable.piece : ∃ piece : Piece, piece.text = (spell byte).toList ∧ piece.bytes = [byte] := by
  rcases spell_cases byte with ⟨letter, hin, ht⟩ | ⟨-, ht⟩
  · exact ⟨.escape letter byte (controls_subset_named hin), ht.symm, rfl⟩
  · exact ⟨.plain _ (h.symbol_ne '\\' rfl h.2.symm), ht.symm, h.encode⟩

/-- The controls that end a line have escapes. -/
theorem Typable.unbroken : '\n' ∉ (spell byte).toList ∧ '\r' ∉ (spell byte).toList := by
  rcases spell_cases byte with ⟨letter, hin, ht⟩ | ⟨hnone, ht⟩
  · have hletters : ∀ entry ∈ controls, entry.1 ≠ '\n' ∧ entry.1 ≠ '\r' := by decide
    obtain ⟨hn, hr⟩ := hletters _ hin
    rw [ht]
    simp [hn.symm, hr.symm]
  · have hn := h.symbol_ne '\n' rfl (hnone ('n', 0x0A) (by decide))
    have hr := h.symbol_ne '\r' rfl (hnone ('r', 0x0D) (by decide))
    rw [ht]
    simp [hn.symm, hr.symm]

end Typable

section Line

variable {bytes : List UInt8} (h : ∀ byte ∈ bytes, Typable byte)
include h

theorem exists_shown_pieces : ∃ pieces : List Piece,
    pieces.map Piece.text = (bytes.map spell).map String.toList ∧ meaning pieces = bytes := by
  induction bytes with
  | nil => exact ⟨[], rfl, rfl⟩
  | cons byte bytes ih =>
    rw [List.forall_mem_cons] at h
    obtain ⟨piece, ht, hb⟩ := h.1.piece
    obtain ⟨pieces, hts, hbs⟩ := ih h.2
    refine ⟨piece :: pieces, ?_, ?_⟩
    · rw [List.map_cons, List.map_cons, List.map_cons, ht, hts]
    · rw [meaning_cons, hb, hbs, List.singleton_append]

/-- What is shown of some bytes, one after another, is spelled by a piece for each of them. -/
theorem exists_shown_spelling : ∃ pieces : List Piece,
    pieces.map Piece.text = (bytes.map spell).map String.toList ∧
      (String.join (bytes.map spell)).toList = spelling pieces ∧ meaning pieces = bytes := by
  obtain ⟨pieces, ht, hb⟩ := exists_shown_pieces h
  refine ⟨pieces, ht, ?_, hb⟩
  rw [String.toList_join, List.flatMap_def, ← ht, spelling, List.flatMap_def]

theorem shown_unbroken : '\n' ∉ (String.join (bytes.map spell)).toList ∧
    '\r' ∉ (String.join (bytes.map spell)).toList := by
  simp only [String.toList_join, List.flatMap_map, List.mem_flatMap, not_exists, not_and]
  exact ⟨fun byte hb => (h byte hb).unbroken.1, fun byte hb => (h byte hb).unbroken.2⟩

end Line

end Escaped

namespace Session

open Escaped

/-- Of some bytes just one list of texts is shown. Typed one after another, they are read as these
bytes and as nothing else: the texts are the pieces of the line. In a session the line hands these
bytes to the machine. -/
theorem shown_retyped {bytes : List UInt8} (h : ∀ byte ∈ bytes, Typable byte) :
    ∃ texts : List String, (∀ others, List.Forall₂ Shows bytes others ↔ others = texts) ∧
      decode (String.join texts).toList = .ok bytes ∧
      (∀ pieces rest fault, Tail rest fault →
        (String.join texts).toList = spelling pieces ++ rest →
        pieces.map Piece.text = texts.map String.toList ∧ rest = []) ∧
      (bytes ≠ [] → ∀ {Memory : Type} (machine : Machine Memory),
        run machine (typed [String.join texts]) =
          ((feed machine bytes).andThen fun m => takeLines m []).after [prompt] []) := by
  obtain ⟨pieces, htext, hline, hbytes⟩ := exists_shown_spelling h
  have hd : decode (String.join (bytes.map spell)).toList = .ok bytes :=
    decode_ok_iff.mpr ⟨pieces, hline, hbytes.symm⟩
  refine ⟨bytes.map spell, fun others => forall₂_shows_iff, hd, ?_, ?_⟩
  · intro others rest fault htail hothers
    rw [hline, ← List.append_nil (spelling pieces)] at hothers
    obtain ⟨rfl, rfl⟩ := pieces_unique Tail.done htail hothers
    exact ⟨htext, rfl⟩
  · intro hne Memory machine
    obtain ⟨hfeed, hreturn⟩ := shown_unbroken h
    have hl : Legible (String.join (bytes.map spell)) := by
      refine ⟨?_, hfeed, fun hlast => hreturn (List.mem_of_getLast? hlast), _, hd⟩
      intro hempty
      rw [hempty] at hd
      exact hne (Except.ok.inj hd).symm
    rw [run, takeLines_legible machine (List.forall_mem_singleton.mpr hl)
      (List.Forall₂.cons hd List.Forall₂.nil), List.flatten_singleton]

def mute : Machine Unit := (Machine.withOptions {} ()).calls [.addState { name := "root" }, .prestart]

/-- A letter that is shown after a tab belongs to no escape, nor does a digit after a zero byte. -/
theorem mute_retyped : List.Forall₂ Shows [0x09, 0x74, 0x00, 0x30] ["\\t", "t", "\\0", "0"] ∧
    decode "\\tt\\00".toList = .ok [0x09, 0x74, 0x00, 0x30] ∧
    (∀ pieces, spelling pieces = "\\tt\\00".toList →
      pieces.map Piece.text = [['\\', 't'], ['t'], ['\\', '0'], ['0']]) ∧
    run mute (typed ["\\tt\\00"]) =
      ((feed mute [0x09, 0x74, 0x00, 0x30]).andThen fun m => takeLines m []).after [prompt] [] ∧
    (run mute (typed ["\\tt\\00"])).output.length = 5 := by
  have hs : List.Forall₂ Shows [0x09, 0x74, 0x00, 0x30] ["\\t", "t", "\\0", "0"] := by
    simp only [List.forall₂_cons, List.forall₂_nil_left_iff, shows_iff]
    decide
  have hb : ∀ byte ∈ [(0x09 : UInt8), 0x74, 0x00, 0x30], Typable byte := by
    simp only [Typable, List.forall_mem_cons, List.not_mem_nil, false_imp_iff, forall_const]
    decide
  obtain ⟨texts, hshown, hd, hpieces, hrun⟩ := shown_retyped hb
  obtain rfl := (hshown _).mp hs
  have hr : run mute (typed ["\\tt\\00"]) =
      ((feed mute [0x09, 0x74, 0x00, 0x30]).andThen fun m => takeLines m []).after [prompt] [] :=
    hrun (by simp) mute
  refine ⟨hs, hd, fun pieces hp => ?_, hr, ?_⟩
  · exact (hpieces pieces [] none Tail.done (hp.symm.trans (List.append_nil _).symm)).1
  · rw [hr]
    rfl

end Session
end StateNest
