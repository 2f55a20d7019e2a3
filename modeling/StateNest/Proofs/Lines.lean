import StateNest.Proofs.Account
import StateNest.Proofs.Spelling
import StateNest.Proofs.Transcript

/-!
# Lines in a session

What is typed in a session may be cut into lines anywhere between two pieces. As long as
each line is read as it was typed, the session is the one of a single line: the machine
is handed the same bytes, and the session stops at the same one of them if it does.
-/

set_option autoImplicit false

namespace StateNest.Session

section Continuing

variable {Memory : Type}

def andThen (session : Session Memory) (next : Machine Memory → Session Memory) :
    Session Memory :=
  match session.conclusion with
  | .open => (next session.machine).after session.output session.journal
  | _ => session

variable {session : Session Memory} {next : Machine Memory → Session Memory}

theorem andThen_open (h : session.conclusion = .open) :
    session.andThen next = (next session.machine).after session.output session.journal := by
  rw [andThen, h]

theorem andThen_stopped (h : session.conclusion ≠ .open) : session.andThen next = session := by
  rw [andThen]
  split
  · next hopen => exact absurd hopen h
  · rfl

theorem after_after (session : Session Memory) (output output' : List String)
    (journal journal' : Journal) : (session.after output journal).after output' journal' =
      session.after (output' ++ output) (journal' ++ journal) := by
  simp only [after, List.append_assoc]

theorem andThen_after (session : Session Memory) (output : List String) (journal : Journal)
    (next : Machine Memory → Session Memory) :
    (session.after output journal).andThen next = (session.andThen next).after output journal := by
  by_cases h : session.conclusion = .open
  · have h' : (session.after output journal).conclusion = .open := h
    rw [andThen_open h, andThen_open h', after_after]
    rfl
  · have h' : (session.after output journal).conclusion ≠ .open := h
    rw [andThen_stopped h, andThen_stopped h']

theorem andThen_assoc (session : Session Memory) (next later : Machine Memory → Session Memory) :
    (session.andThen next).andThen later =
      session.andThen fun machine => (next machine).andThen later := by
  by_cases h : session.conclusion = .open
  · rw [andThen_open h, andThen_open h, andThen_after]
  · rw [andThen_stopped h, andThen_stopped h, andThen_stopped h]

theorem feed_append (machine : Machine Memory) (first second : List UInt8) :
    feed machine (first ++ second) = (feed machine first).andThen fun m => feed m second := by
  induction first generalizing machine with
  | nil => rfl
  | cons byte first ih =>
    rw [List.cons_append]
    rcases hr : (machine.parse (symbol byte)).result with cause | ⟨_ | _⟩
    · rw [feed_refused _ hr, feed_refused _ hr]
      rfl
    · obtain ⟨failure, hf⟩ := Machine.failure_of_parse hr
      rw [feed_failed _ hr hf, feed_failed _ hr hf]
      rfl
    · rw [feed_accepted _ hr, feed_accepted _ hr, ih, andThen_after]

theorem takeLines_cons (machine : Machine Memory) (line : List UInt8)
    (others : List (List UInt8)) : takeLines machine (line :: others) =
      (takeLine machine line).andThen fun m => takeLines m others := by
  by_cases h : (takeLine machine line).conclusion = .open
  · rw [takeLines_open others h, andThen_open h]
  · rw [takeLines_stopped others h, andThen_stopped h]

/-- Lines that stand for bytes are taken as these bytes, up to the end of the input. -/
theorem takeLines_typed {typed bytes : List (List UInt8)} (h : List.Forall₂ Typed typed bytes)
    (machine : Machine Memory) : takeLines machine typed =
      (feed machine bytes.flatten).andThen fun m => takeLines m [] := by
  induction h generalizing machine with
  | nil => rfl
  | cons ht _ ih =>
    rw [takeLines_cons, takeLine_typed ht, List.flatten_cons, feed_append, andThen_assoc]
    exact congrArg _ (funext ih)

end Continuing

section Typing

def typed (lines : List String) : List UInt8 :=
  lines.flatMap fun line => line.toUTF8.data.toList ++ [0x0A]

structure Legible (line : String) : Prop where
  nonempty : line ≠ ""
  unbroken : '\n' ∉ line.toList
  ending : line.toList.getLast? ≠ some '\r'
  decoded : ∃ bytes, Escaped.decode line.toList = .ok bytes

theorem eq_of_mem_encode {symbol : Char} (h : 0x0A ∈ String.utf8EncodeChar symbol) :
    symbol = '\n' := by
  have hbyte (value : Nat) (hv : value < 256) (he : (0x0A : UInt8) = UInt8.ofNat value) :
      value = 0x0A := by
    have := congrArg UInt8.toNat he
    rw [UInt8.toNat_ofNat_of_lt' hv] at this
    exact this.symm
  have hcode : symbol.val.toNat = 0x0A := by
    simp only [String.utf8EncodeChar] at h
    split_ifs at h <;> simp only [List.mem_cons, List.not_mem_nil, or_false] at h
    · exact hbyte _ (by omega) h
    -- All bytes of a longer encoding are 0x80 at least.
    · rcases h with he | he <;> exact absurd (hbyte _ (by omega) he) (by omega)
    · rcases h with he | he | he <;> exact absurd (hbyte _ (by omega) he) (by omega)
    · rcases h with he | he | he | he <;> exact absurd (hbyte _ (by omega) he) (by omega)
  exact Char.ext (UInt32.toNat_inj.mp hcode)

theorem lines_cons {line : List UInt8} (h : 0x0A ∉ line) (rest : List UInt8) :
    lines (line ++ [0x0A] ++ rest) = line :: lines rest := by
  induction line with
  | nil => rfl
  | cons byte line ih =>
    rw [List.mem_cons, not_or] at h
    obtain ⟨hb, hline⟩ := h
    rw [List.cons_append, List.cons_append, lines, if_neg (Ne.symm hb), ih hline]

theorem lines_typed {texts : List String} (h : ∀ line ∈ texts, '\n' ∉ line.toList) :
    lines (typed texts) = texts.map fun line => line.toUTF8.data.toList := by
  induction texts with
  | nil => rfl
  | cons line others ih =>
    rw [List.forall_mem_cons] at h
    have hline : 0x0A ∉ line.toUTF8.data.toList := by
      rw [Escaped.encoded_eq, List.mem_flatMap]
      rintro ⟨symbol, hs, hb⟩
      rw [eq_of_mem_encode hb] at hs
      exact h.1 hs
    rw [typed, List.flatMap_cons, lines_cons hline, ← typed, ih h.2, List.map_cons]

theorem Legible.typed {line : String} (h : Legible line) {bytes : List UInt8}
    (hd : Escaped.decode line.toList = .ok bytes) : Typed line.toUTF8.data.toList bytes := by
  refine ⟨line.toList, lineText?_eq_some_iff.mpr ⟨h.ending, 0, ?_⟩, ?_, hd⟩
  · rw [List.replicate_zero, List.append_nil, Escaped.encoded_eq]
  · exact fun hempty => h.nonempty (String.toList_eq_nil_iff.mp hempty)

def Decoded (lines : List String) (bytes : List (List UInt8)) : Prop :=
  List.Forall₂ (fun line bytes => Escaped.decode line.toList = .ok bytes) lines bytes

theorem Decoded.join {lines : List String} {bytes : List (List UInt8)} (h : Decoded lines bytes) :
    Escaped.decode (String.join lines).toList = .ok bytes.flatten := by
  rw [String.toList_join]
  induction h with
  | nil => rfl
  | cons hd _ ih => rw [List.flatMap_cons, Escaped.decode_append hd, ih, List.flatten_cons]; rfl

theorem takeLines_legible {Memory : Type} (machine : Machine Memory) {texts : List String}
    (hl : ∀ line ∈ texts, Legible line) {bytes : List (List UInt8)}
    (hd : Decoded texts bytes) : takeLines machine (lines (typed texts)) =
      (feed machine bytes.flatten).andThen fun m => takeLines m [] := by
  rw [lines_typed fun line hline => (hl line hline).unbroken]
  refine takeLines_typed ?_ machine
  rw [List.forall₂_map_left_iff]
  exact ((List.forall₂_and_left _ _).mpr ⟨hl, hd⟩).imp fun line bytes h => h.1.typed h.2

theorem legible_join {lines : List String} (hne : lines ≠ []) (hl : ∀ line ∈ lines, Legible line)
    {bytes : List (List UInt8)} (hd : Decoded lines bytes) : Legible (String.join lines) := by
  have hlast := hl _ (List.getLast_mem hne)
  have hsplit : (String.join lines).toList =
      (String.join lines.dropLast).toList ++ (lines.getLast hne).toList := by
    conv_lhs => rw [← List.dropLast_append_getLast hne]
    simp only [String.toList_join, List.flatMap_append, List.flatMap_singleton]
  have hsymbols : (lines.getLast hne).toList ≠ [] := fun hempty =>
    hlast.nonempty (String.toList_eq_nil_iff.mp hempty)
  constructor
  · intro hempty
    rw [hempty, String.toList_empty, eq_comm, List.append_eq_nil_iff] at hsplit
    exact hsymbols hsplit.2
  · rw [String.toList_join, List.mem_flatMap]
    rintro ⟨line, hline, hbreak⟩
    exact (hl line hline).unbroken hbreak
  · rw [hsplit, List.getLast?_append_of_ne_nil _ hsymbols]
    exact hlast.ending
  · exact ⟨_, hd.join⟩

end Typing

/-- A session is the same if what is typed on several lines is typed on one. -/
theorem run_joined {Memory : Type} (machine : Machine Memory) {texts : List String}
    (hl : ∀ line ∈ texts, Legible line) :
    run machine (typed [String.join texts]) = run machine (typed texts) := by
  obtain ⟨bytes, hd⟩ : ∃ bytes, Decoded texts bytes :=
    exists_forall₂_iff.mpr fun line hline => (hl line hline).decoded
  by_cases hne : texts = []
  · -- An empty line ends the session, and so does the end of the input.
    have hempty : lineText? [] = some [] := lineText?_eq_some_iff.mpr ⟨by simp, 0, rfl⟩
    subst hne
    change (takeLines machine [[]]).after _ _ = (takeLines machine []).after _ _
    simp only [takeLines, takeLine, hempty]
  · have hjoined : ∀ line ∈ [String.join texts], Legible line :=
      List.forall_mem_singleton.mpr (legible_join hne hl hd)
    have hbytes : Decoded [String.join texts] [bytes.flatten] :=
      List.Forall₂.cons hd.join List.Forall₂.nil
    rw [run, run, takeLines_legible machine hl hd, takeLines_legible machine hjoined hbytes,
      List.flatten_singleton]

/-- A callback fails at the second of three lines, and at the same symbol of the joined line. -/
theorem torn_joined : (∀ line ∈ ["bx", "c\\t", "d"], Legible line) ∧
    run Machine.torn (typed ["bxc\\td"]) = run Machine.torn (typed ["bx", "c\\t", "d"]) ∧
    (run Machine.torn (typed ["bxc\\td"])).machine.failure = some ⟨"broken"⟩ ∧
    (run Machine.torn (typed ["bxc\\td"])).machine.chain = [0, 1] := by
  have hl : ∀ line ∈ ["bx", "c\\t", "d"], Legible line := by
    simp only [List.forall_mem_cons, List.not_mem_nil, false_imp_iff, forall_const, and_true]
    exact ⟨⟨by decide, by decide, by decide, _, rfl⟩, ⟨by decide, by decide, by decide, _, rfl⟩,
      by decide, by decide, by decide, _, rfl⟩
  have hjoin : String.join ["bx", "c\\t", "d"] = "bxc\\td" := by decide
  refine ⟨hl, ?_, by decide +kernel, by decide +kernel⟩
  rw [← hjoin]
  exact run_joined Machine.torn hl

end StateNest.Session
