import StateNest.CommandLine
import StateNest.Proofs.Trust

/-!
# How sessions end

A machine that takes every symbol leaves it to the input how a session ends: at
an empty line, at a malformed escape, at a line that is no text, or with the
input itself. Only a line that is no text is an error, and then only if it is
reached. For the machine of a graph the exit code tells nothing else.
-/

set_option autoImplicit false

namespace StateNest

namespace Session

def symbols (bytes : List UInt8) : List Char := bytes.map fun byte => Char.ofNat byte.toNat

def Encoded (line : List UInt8) : Prop := (ByteArray.mk line.toArray).IsValidUTF8

def Typed (line bytes : List UInt8) : Prop :=
  ∃ text, lineText? line = some text ∧ text ≠ [] ∧ Escaped.decode text = .ok bytes

/-- The lines of an input are taken until one stops the session. The bytes are those that the
lines before it stand for. -/
inductive Course : List (List UInt8) → List UInt8 → Conclusion → Prop
  | endOfInput : Course [] [] .ended
  | empty (line : List UInt8) (others : List (List UInt8)) (ht : lineText? line = some []) :
      Course (line :: others) [] .ended
  | malformed (line : List UInt8) (others : List (List UInt8)) (text : List Char)
      (cause : Escaped.EscapeError) (ht : lineText? line = some text)
      (hd : Escaped.decode text = .error cause) : Course (line :: others) [] .ended
  | unreadable (line : List UInt8) (others : List (List UInt8)) (hu : ¬ Encoded line) :
      Course (line :: others) [] (.broken .unreadable)
  | typed (line bytes : List UInt8) (others : List (List UInt8)) (later : List UInt8)
      (conclusion : Conclusion) (ht : Typed line bytes) (hc : Course others later conclusion) :
      Course (line :: others) (bytes ++ later) conclusion

inductive Reached : List (List UInt8) → List UInt8 → Prop
  | first (line : List UInt8) (others : List (List UInt8)) : Reached (line :: others) line
  | later (line bytes : List UInt8) (others : List (List UInt8)) (other : List UInt8)
      (ht : Typed line bytes) (hr : Reached others other) : Reached (line :: others) other

theorem lineText?_eq_none_iff {line : List UInt8} : lineText? line = none ↔ ¬ Encoded line := by
  rw [lineText?, Option.map_eq_none_iff, String.fromUTF8?, Encoded]
  split
  · next h => simp [h]
  · next h => simp [h]

theorem encoded_of_lineText? {line : List UInt8} {text : List Char}
    (h : lineText? line = some text) : Encoded line := by
  by_contra hu
  rw [lineText?_eq_none_iff.mpr hu] at h
  simp at h

theorem symbols_append (first second : List UInt8) :
    symbols (first ++ second) = symbols first ++ symbols second :=
  List.map_append

theorem reached_cons_iff {line other : List UInt8} {others : List (List UInt8)} :
    Reached (line :: others) other ↔
      other = line ∨ (∃ bytes, Typed line bytes) ∧ Reached others other := by
  constructor
  · intro h
    cases h with
    | first => exact Or.inl rfl
    | later line bytes others other ht hr => exact Or.inr ⟨⟨bytes, ht⟩, hr⟩
  · rintro (rfl | ⟨⟨bytes, ht⟩, hr⟩)
    · exact Reached.first _ others
    · exact Reached.later line bytes others other ht hr

/-- A text that stops the session keeps all later lines from being reached. -/
theorem reached_of_stop {line other : List UInt8} {others : List (List UInt8)} {text : List Char}
    (ht : lineText? line = some text) (hn : ∀ bytes, text = [] ∨ Escaped.decode text ≠ .ok bytes)
    (hr : Reached (line :: others) other) : Encoded other := by
  rcases reached_cons_iff.mp hr with rfl | ⟨⟨bytes, found, hf, hne, hd⟩, -⟩
  · exact encoded_of_lineText? ht
  · obtain rfl := Option.some.inj (ht.symm.trans hf)
    exact ((hn bytes).elim hne fun hd' => hd' hd).elim

theorem Course.broken_iff {lines : List (List UInt8)} {bytes : List UInt8}
    {conclusion : Conclusion} (h : Course lines bytes conclusion) :
    (∃ cause, conclusion = .broken cause) ↔ ∃ line, Reached lines line ∧ ¬ Encoded line := by
  induction h with
  | endOfInput =>
    refine ⟨by simp, ?_⟩
    rintro ⟨line, hr, -⟩
    cases hr
  | empty line others ht =>
    refine ⟨by simp, ?_⟩
    rintro ⟨other, hr, hu⟩
    exact absurd (reached_of_stop ht (fun _ => Or.inl rfl) hr) hu
  | malformed line others text cause ht hd =>
    refine ⟨by simp, ?_⟩
    rintro ⟨other, hr, hu⟩
    exact absurd (reached_of_stop ht (fun _ => Or.inr (by simp [hd])) hr) hu
  | unreadable line others hu =>
    exact ⟨fun _ => ⟨line, Reached.first line others, hu⟩, fun _ => ⟨_, rfl⟩⟩
  | typed line bytes others later conclusion ht hc ih =>
    rw [ih]
    constructor
    · rintro ⟨other, hr, hu⟩
      exact ⟨other, Reached.later line bytes others other ht hr, hu⟩
    · rintro ⟨other, hr, hu⟩
      rcases reached_cons_iff.mp hr with rfl | ⟨-, hr⟩
      · obtain ⟨text, hencoded, -⟩ := ht
        exact absurd (encoded_of_lineText? hencoded) hu
      · exact ⟨other, hr, hu⟩

section Reliable

variable {Memory : Type} {machine : Machine Memory}

@[simp] theorem after_machine (session : Session Memory) (output : List String)
    (journal : Journal) : (session.after output journal).machine = session.machine := rfl

@[simp] theorem after_conclusion (session : Session Memory) (output : List String)
    (journal : Journal) : (session.after output journal).conclusion = session.conclusion := rfl

theorem feed_reliable (h : machine.Reliable) (bytes : List UInt8) :
    (feed machine bytes).conclusion = .open ∧
      (feed machine bytes).machine = machine.feed (symbols bytes) := by
  induction bytes generalizing machine with
  | nil => exact ⟨rfl, rfl⟩
  | cons byte bytes ih =>
    have ht := h.parse_taken (Char.ofNat byte.toNat)
    rw [feed, ht.result]
    exact ih (h.parse _)

theorem takeLine_typed {line bytes : List UInt8} (h : Typed line bytes) :
    takeLine machine line = feed machine bytes := by
  obtain ⟨text, ht, hne, hd⟩ := h
  cases text with
  | nil => exact absurd rfl hne
  | cons symbol text => simp [takeLine, ht, hd]

theorem takeLine_untyped (machine : Machine Memory) {line : List UInt8}
    (h : ¬ ∃ bytes, Typed line bytes) (others : List (List UInt8)) :
    (takeLine machine line).machine = machine ∧ (takeLine machine line).conclusion ≠ .open ∧
      Course (line :: others) [] (takeLine machine line).conclusion := by
  cases ht : lineText? line with
  | none =>
    simp only [takeLine, ht]
    exact ⟨trivial, by simp, Course.unreadable line others (lineText?_eq_none_iff.mp ht)⟩
  | some text =>
    cases text with
    | nil =>
      simp only [takeLine, ht]
      exact ⟨trivial, by simp, Course.empty line others ht⟩
    | cons symbol text =>
      cases hd : Escaped.decode (symbol :: text) with
      | error cause =>
        simp only [takeLine, ht, hd]
        exact ⟨trivial, by simp, Course.malformed line others _ cause ht hd⟩
      | ok bytes => exact absurd ⟨bytes, _, ht, by simp, hd⟩ h

/-- Whatever lines follow, a reliable machine takes the bytes that they stand for until one of
them stops the session. -/
theorem takeLines_course (h : machine.Reliable) (lines : List (List UInt8)) :
    ∃ bytes, Course lines bytes (takeLines machine lines).conclusion ∧
      (takeLines machine lines).machine = machine.feed (symbols bytes) := by
  induction lines generalizing machine with
  | nil => exact ⟨[], Course.endOfInput, rfl⟩
  | cons line others ih =>
    -- A line that stands for bytes never stops a reliable machine, and all other lines do.
    by_cases ht : ∃ bytes, Typed line bytes
    · obtain ⟨bytes, ht⟩ := ht
      obtain ⟨hopen, hfed⟩ := feed_reliable h bytes
      obtain ⟨later, hc, hm⟩ := ih (h.feed (symbols bytes))
      refine ⟨bytes ++ later, ?_⟩
      rw [takeLines, takeLine_typed ht, hopen, hfed]
      refine ⟨Course.typed line bytes others later _ ht hc, ?_⟩
      rw [after_machine, hm, symbols_append, Machine.feed_append]
    · obtain ⟨hm, hstop, hc⟩ := takeLine_untyped machine ht others
      refine ⟨[], ?_⟩
      rw [takeLines]
      split
      · next hopen => exact absurd hopen hstop
      · exact ⟨hc, hm⟩

/-- For a reliable machine, an input is in error exactly if a line is reached that is no text. -/
theorem run_error_iff (h : machine.Reliable) (input : List UInt8) :
    (run machine input).error?.isSome = true ↔
      ∃ line, Reached (lines input) line ∧ ¬ Encoded line := by
  obtain ⟨bytes, hc, -⟩ := takeLines_course h (lines input)
  rw [← hc.broken_iff, run, error?, after_conclusion]
  cases (takeLines machine (lines input)).conclusion <;> simp

end Reliable

end Session

theorem CommandLine.run_code {engine : Engine} {arguments : List String} {path : Option String}
    {files : String → Option String} {graph : Graph} {machine : Machine Unit}
    (ha : Arguments.read arguments = .run path false) (hl : loadGraph? files path = some graph)
    (hb : graph.build engine = .ok machine) (input : List UInt8) :
    (run engine arguments files input).code =
      if (Session.run machine input).error?.isSome = true then 1 else 0 := by
  simp [run, ha, hl, hb, runMachine]

/-- The machine of a graph takes every symbol, whatever was fed to it before. Sessions with it end
as their input has it, and the program fails exactly if it reaches a line that is no text. -/
theorem Graph.build_takes_all {engine : Engine} {graph : Graph} {machine : Machine Unit}
    (hb : graph.build engine = .ok machine) :
    (∀ text, (∀ outcome ∈ machine.outcomes text, Machine.Taken outcome) ∧
      (machine.feed text).status ≠ .error ∧ (machine.feed text).failure = none) ∧
    (∀ input,
      (∃ bytes, Session.Course (Session.lines input) bytes (Session.run machine input).conclusion ∧
        (Session.run machine input).machine = machine.feed (Session.symbols bytes)) ∧
      ((Session.run machine input).error?.isSome = true ↔
        ∃ line, Session.Reached (Session.lines input) line ∧ ¬ Session.Encoded line)) ∧
    ∀ arguments files path input, Arguments.read arguments = .run path false →
      CommandLine.loadGraph? files path = some graph →
      ((CommandLine.run engine arguments files input).code = 1 ↔
        ∃ line, Session.Reached (Session.lines input) line ∧ ¬ Session.Encoded line) ∧
      ((CommandLine.run engine arguments files input).code = 0 ∨
        (CommandLine.run engine arguments files input).code = 1) := by
  have h := build_reliable hb
  refine ⟨fun text => ?_, fun input => ?_, fun arguments files path input ha hl => ?_⟩
  · exact ⟨h.outcomes_taken text, (h.feed text).status, (h.feed text).failure⟩
  · exact ⟨Session.takeLines_course h (Session.lines input), Session.run_error_iff h input⟩
  · rw [← Session.run_error_iff h input, CommandLine.run_code ha hl hb]
    cases (Session.run machine input).error?.isSome <;> simp

/-- A line that is no text is an error after a line that stands for a symbol, but not after an
empty one. -/
theorem Graph.demo_takes_all : ∃ machine, demo.build Regex.engine = .ok machine ∧
    (machine.feed ['!', '<']).status ≠ .error ∧
    (CommandLine.run Regex.engine [] (fun _ => none) [0x3C, 0x0A, 0xFF]).code = 1 ∧
    (CommandLine.run Regex.engine [] (fun _ => none) [0x0A, 0xFF]).code ≠ 1 := by
  have hw : demo.WellFormed Regex.engine := by decide +kernel
  obtain ⟨machine, hb⟩ := exists_build_ok_iff.mpr hw
  have h := build_takes_all hb
  refine ⟨machine, hb, (h.1 _).2.1, ?_, ?_⟩
  · refine (h.2.2 [] _ none _ rfl rfl).1.mpr ⟨[0xFF], ?_, ?_⟩
    · refine Session.Reached.later [0x3C] [0x3C] [[0xFF]] [0xFF] ?_ (Session.Reached.first _ _)
      exact ⟨['<'], by decide +kernel, by decide, by decide⟩
    · exact Session.lineText?_eq_none_iff.mp (by decide +kernel)
  · rw [Ne, (h.2.2 [] _ none _ rfl rfl).1]
    rintro ⟨line, hr, hu⟩
    exact hu (Session.reached_of_stop (by decide +kernel) (fun _ => Or.inl rfl) hr)

end StateNest
