import Mathlib.Data.List.TakeWhile
import StateNest.Proofs.Sessions
import StateNest.Proofs.Spelling
import StateNest.Proofs.Wording

/-!
# What a session shows

The input of a session dictates bytes, line by line until a line stops it, and this
has nothing to do with the machine. The machine is handed these bytes in order until
a callback fails or a call is refused. The output of the session tells of each byte
that was not refused, and then why the session has ended.
-/

set_option autoImplicit false

namespace StateNest

namespace Machine

variable {Memory : Type}

theorem outcomes_append (m : Machine Memory) (first second : List Char) :
    m.outcomes (first ++ second) = m.outcomes first ++ (m.feed first).outcomes second := by
  induction first generalizing m with
  | nil => rfl
  | cons symbol first ih => exact congrArg _ (ih _)

/-- A call that gives back `false` keeps the failure that it is due to. -/
theorem failure_of_parse {m : Machine Memory} {symbol : Char}
    (h : (m.parse symbol).result = .ok false) :
    ∃ failure, (m.parse symbol).machine.failure = some failure := by
  cases hs : m.started with
  | false =>
    rw [parse_refused symbol hs] at h
    simp at h
  | true =>
    have hm := parse_move m symbol hs
    generalize m.parse symbol = outcome at hm h
    cases hm with
    | enterFailed target tracker memory failure hi hc ha => exact ⟨failure, rfl⟩
    | leaveFailed tracker memory failure hi hc ha => exact ⟨failure, rfl⟩
    | missed tracker events middle outcome hi hc hp he hs hr =>
      cases he with
      | failed memory handler missed failure => exact ⟨failure, rfl⟩
      | _ => simp at h
    | _ => simp at h

end Machine

namespace Session

section Reading

/-- An input is cut at its line feeds. What follows the last of them is a line if there is
something. -/
def Cut (input : List UInt8) (lines : List (List UInt8)) : Prop :=
  ∃ whole rest, input = whole.flatMap (· ++ [0x0A]) ++ rest ∧
    (∀ line ∈ whole, 0x0A ∉ line) ∧ 0x0A ∉ rest ∧
    lines = if rest = [] then whole else whole ++ [rest]

theorem cut_lines (input : List UInt8) : Cut input (lines input) := by
  induction input with
  | nil => exact ⟨[], [], rfl, by simp, by simp, rfl⟩
  | cons byte input ih =>
    obtain ⟨whole, rest, hinput, hwhole, hrest, hlines⟩ := ih
    by_cases hb : byte = 0x0A
    · refine ⟨[] :: whole, rest, ?_, by simpa using hwhole, hrest, ?_⟩
      · simp [hb, hinput]
      · rw [lines, if_pos hb, hlines]
        split <;> rfl
    · -- The byte belongs to the line that comes first.
      cases whole with
      | cons line whole =>
        obtain ⟨hline, hwhole⟩ := List.forall_mem_cons.mp hwhole
        refine ⟨(byte :: line) :: whole, rest, ?_, ?_, hrest, ?_⟩
        · simp [hinput]
        · rw [List.forall_mem_cons, List.mem_cons, not_or]
          exact ⟨⟨Ne.symm hb, hline⟩, hwhole⟩
        · rw [lines, if_neg hb, hlines]
          by_cases hempty : rest = [] <;> simp [hempty]
      | nil =>
        refine ⟨[], byte :: rest, by simp [hinput], by simp, ?_, ?_⟩
        · simp only [List.mem_cons, not_or]
          exact ⟨Ne.symm hb, hrest⟩
        · rw [lines, if_neg hb, hlines]
          by_cases hempty : rest = [] <;> simp [hempty]

def Reads (line : List UInt8) (text : List Char) : Prop :=
  text.getLast? ≠ some '\r' ∧
    ∃ returns, line = (text ++ List.replicate returns '\r').flatMap String.utf8EncodeChar

theorem trimmed_iff {text kept : List Char} :
    (text.reverse.dropWhile (· = '\r')).reverse = kept ↔
      kept.getLast? ≠ some '\r' ∧ ∃ returns, text = kept ++ List.replicate returns '\r' := by
  constructor
  · rintro rfl
    constructor
    · intro hlast
      rw [List.getLast?_reverse] at hlast
      have hn := List.head?_dropWhile_not (fun symbol => decide (symbol = '\r')) text.reverse
      rw [hlast] at hn
      simp at hn
    · refine ⟨(text.reverse.takeWhile (· = '\r')).length, ?_⟩
      have hreturns : text.reverse.takeWhile (· = '\r') =
          List.replicate (text.reverse.takeWhile (· = '\r')).length '\r' := by
        apply List.eq_replicate_of_mem
        intro symbol hs
        simpa using List.mem_takeWhile_imp hs
      calc text = (text.reverse.takeWhile (· = '\r') ++
              text.reverse.dropWhile (· = '\r')).reverse := by
            rw [List.takeWhile_append_dropWhile, List.reverse_reverse]
        _ = _ := by
            rw [List.reverse_append, hreturns, List.reverse_replicate, List.length_replicate]
  · rintro ⟨hlast, returns, rfl⟩
    rw [List.reverse_append, List.reverse_replicate, List.dropWhile_append_of_pos (by simp)]
    cases hr : kept.reverse with
    | nil => rw [List.reverse_eq_nil_iff.mp hr, List.dropWhile_nil, List.reverse_nil]
    | cons symbol others =>
      rw [← List.head?_reverse, hr, List.head?_cons, Ne, Option.some.injEq] at hlast
      rw [List.dropWhile_cons_of_neg (by simpa using hlast), ← hr, List.reverse_reverse]

theorem lineText?_eq_some_iff {line : List UInt8} {text : List Char} :
    lineText? line = some text ↔ Reads line text := by
  have hencoded (read : List Char) : line = read.flatMap String.utf8EncodeChar ↔
      ByteArray.mk line.toArray = read.utf8Encode := by
    rw [List.utf8Encode, ByteArray.ext_iff]
    simp
  rw [Reads, lineText?, Option.map_eq_some_iff]
  constructor
  · rintro ⟨read, hread, htrim⟩
    obtain ⟨hlast, returns, ht⟩ := trimmed_iff.mp htrim
    refine ⟨hlast, returns, ?_⟩
    rw [String.fromUTF8?] at hread
    split at hread
    · obtain rfl := Option.some.inj hread
      rw [hencoded, ← ht, String.utf8Encode_toList, String.fromUTF8]
    · simp at hread
  · rintro ⟨hlast, returns, hl⟩
    rw [hencoded] at hl
    refine ⟨String.ofList (text ++ List.replicate returns '\r'), ?_, ?_⟩
    · rw [String.fromUTF8?, dif_pos ⟨_, hl⟩, Option.some.injEq, ← String.toByteArray_inj,
        String.toByteArray_ofList, ← hl, String.fromUTF8]
    · rw [String.toList_ofList]
      exact trimmed_iff.mpr ⟨hlast, returns, rfl⟩

end Reading

/-- What keeps the rest of an input from being read. -/
inductive Stop where
  /-- An empty line, or the end of the input. -/
  | finished
  | malformed (cause : Escaped.EscapeError)
  | unreadable
  deriving DecidableEq, Repr

namespace Stop

def output : Stop → List String
  | .malformed cause => ["error: " ++ reason cause ++ "\n"]
  | .finished | .unreadable => []

def conclusion : Stop → Conclusion
  | .unreadable => .broken .unreadable
  | .finished | .malformed _ => .ended

end Stop

/-- The bytes that lines stand for, up to the line that stops them. A line that is not made of
pieces to its end stands for no bytes. -/
inductive Dictates : List (List UInt8) → List UInt8 → Stop → Prop
  | endOfInput : Dictates [] [] .finished
  | empty (line : List UInt8) (others : List (List UInt8)) (hr : Reads line []) :
      Dictates (line :: others) [] .finished
  | unreadable (line : List UInt8) (others : List (List UInt8)) (hu : ¬ Encoded line) :
      Dictates (line :: others) [] .unreadable
  | malformed (line : List UInt8) (others : List (List UInt8)) (pieces : List Escaped.Piece)
      (rest : List Char) (cause : Escaped.EscapeError)
      (hr : Reads line (Escaped.spelling pieces ++ rest)) (ht : Escaped.Tail rest (some cause)) :
      Dictates (line :: others) [] (.malformed cause)
  | typed (line : List UInt8) (others : List (List UInt8)) (pieces : List Escaped.Piece)
      (later : List UInt8) (stop : Stop) (hr : Reads line (Escaped.spelling pieces))
      (hne : pieces ≠ []) (hl : Dictates others later stop) :
      Dictates (line :: others) (Escaped.meaning pieces ++ later) stop

theorem exists_dictates (lines : List (List UInt8)) : ∃ bytes stop, Dictates lines bytes stop := by
  induction lines with
  | nil => exact ⟨[], _, Dictates.endOfInput⟩
  | cons line others ih =>
    obtain ⟨later, stop, hl⟩ := ih
    cases ht : lineText? line with
    | none => exact ⟨[], _, Dictates.unreadable line others (lineText?_eq_none_iff.mp ht)⟩
    | some text =>
      have hr := lineText?_eq_some_iff.mp ht
      by_cases hempty : text = []
      · exact ⟨[], _, Dictates.empty line others (hempty ▸ hr)⟩
      · obtain ⟨pieces, rest, fault, rfl, htail⟩ := Escaped.exists_pieces text
        cases fault with
        | some cause => exact ⟨[], _, Dictates.malformed line others pieces rest cause hr htail⟩
        | none =>
          cases htail
          rw [List.append_nil] at hr hempty
          exact ⟨_, _, Dictates.typed line others pieces later stop hr
            (mt Escaped.spelling_eq_nil_iff.mpr hempty) hl⟩

section Feeding

variable {Memory : Type}

def symbol (byte : UInt8) : Char := Char.ofNat byte.toNat

def Accepts (machine : Machine Memory) (bytes : List UInt8) : Prop :=
  ∀ outcome ∈ machine.outcomes (symbols bytes), outcome.result = .ok true

/-- How far a machine takes some bytes: those that are handed to it, what is written after the
last report, and how the session ends. The tail and the conclusion of a machine that takes all of
them are given. -/
inductive Ends (machine : Machine Memory) (bytes : List UInt8) (tail : List String)
    (conclusion : Conclusion) : List UInt8 → List String → Conclusion → Prop
  | accepted (ha : Accepts machine bytes) : Ends machine bytes tail conclusion bytes tail conclusion
  | failed (before after : List UInt8) (byte : UInt8) (failure : Failure)
      (hb : bytes = before ++ byte :: after) (ha : Accepts machine before)
      (hr : ((machine.feed (symbols before)).parse (symbol byte)).result = .ok false)
      (hf : ((machine.feed (symbols before)).parse (symbol byte)).machine.failure =
        some failure) :
      Ends machine bytes tail conclusion (before ++ [byte])
        ["error: " ++ failure.message ++ "\n"] .ended
  | refused (before after : List UInt8) (byte : UInt8) (cause : Error)
      (hb : bytes = before ++ byte :: after) (ha : Accepts machine before)
      (hr : ((machine.feed (symbols before)).parse (symbol byte)).result = .error cause) :
      Ends machine bytes tail conclusion (before ++ [byte]) [] (.broken (.refused cause))

def blocks (machine : Machine Memory) : List UInt8 → List String
  | [] => []
  | byte :: bytes =>
    let outcome := machine.parse (symbol byte)
    (match outcome.result with
      | .ok _ => [String.join ((block outcome.machine byte).map (· ++ "\n"))]
      | .error _ => []) ++ blocks outcome.machine bytes

structure Tells (m : Machine Memory) (fed : List UInt8) (tail : List String)
    (session : Session Memory) : Prop where
  machine : session.machine = m.feed (symbols fed)
  output : session.output = blocks m fed ++ tail
  journal : session.journal = (m.outcomes (symbols fed)).flatMap Outcome.journal

variable {machine : Machine Memory}

theorem blocks_append (machine : Machine Memory) (first second : List UInt8) :
    blocks machine (first ++ second) =
      blocks machine first ++ blocks (machine.feed (symbols first)) second := by
  induction first generalizing machine with
  | nil => rfl
  | cons byte first ih =>
    rw [List.cons_append, blocks, blocks, ih, List.append_assoc]
    rfl

theorem blocks_singleton {byte : UInt8} {taken : Bool}
    (hr : (machine.parse (symbol byte)).result = .ok taken) :
    blocks machine [byte] = [report (machine.parse (symbol byte)).machine byte] := by
  rw [blocks, hr, report_eq_block]
  rfl

theorem accepts_nil : Accepts machine [] :=
  List.forall_mem_nil _

theorem accepts_append {first second : List UInt8} :
    Accepts machine (first ++ second) ↔
      Accepts machine first ∧ Accepts (machine.feed (symbols first)) second := by
  simp only [Accepts, symbols_append, Machine.outcomes_append, List.forall_mem_append]

theorem accepts_singleton {byte : UInt8} :
    Accepts machine [byte] ↔ (machine.parse (symbol byte)).result = .ok true :=
  List.forall_mem_singleton

section Later

variable {first bytes fed : List UInt8} {tail written : List String}
  {conclusion reached : Conclusion}

theorem Ends.later (ha : Accepts machine first)
    (h : Ends (machine.feed (symbols first)) bytes tail conclusion fed written reached) :
    Ends machine (first ++ bytes) tail conclusion (first ++ fed) written reached := by
  cases h with
  | accepted hl => exact Ends.accepted (accepts_append.mpr ⟨ha, hl⟩)
  | failed before after byte failure hb hl hr hf =>
    rw [← Machine.feed_append, ← symbols_append] at hr hf
    rw [← List.append_assoc]
    refine Ends.failed (first ++ before) after byte failure ?_ ?_ hr hf
    · rw [hb, List.append_assoc]
    · exact accepts_append.mpr ⟨ha, hl⟩
  | refused before after byte cause hb hl hr =>
    rw [← Machine.feed_append, ← symbols_append] at hr
    rw [← List.append_assoc]
    refine Ends.refused (first ++ before) after byte cause ?_ ?_ hr
    · rw [hb, List.append_assoc]
    · exact accepts_append.mpr ⟨ha, hl⟩

theorem Tells.later {session : Session Memory}
    (h : Tells (machine.feed (symbols first)) fed tail session) :
    Tells machine (first ++ fed) tail
      (session.after (blocks machine first)
        ((machine.outcomes (symbols first)).flatMap Outcome.journal)) := by
  constructor
  · rw [after_machine, h.machine, symbols_append, Machine.feed_append]
  · rw [after, h.output, blocks_append, List.append_assoc]
  · rw [after, h.journal, symbols_append, Machine.outcomes_append, List.flatMap_append]

end Later

section Step

variable {byte : UInt8} (bytes : List UInt8)

theorem feed_refused {cause : Error}
    (hr : (machine.parse (symbol byte)).result = .error cause) :
    feed machine (byte :: bytes) =
      { machine := (machine.parse (symbol byte)).machine
        journal := (machine.parse (symbol byte)).journal
        conclusion := .broken (.refused cause) } := by
  rw [symbol] at hr ⊢
  rw [feed, hr]

theorem feed_failed {failure : Failure}
    (hr : (machine.parse (symbol byte)).result = .ok false)
    (hf : (machine.parse (symbol byte)).machine.failure = some failure) :
    feed machine (byte :: bytes) =
      { machine := (machine.parse (symbol byte)).machine
        output := [report (machine.parse (symbol byte)).machine byte, errorLine failure.message]
        journal := (machine.parse (symbol byte)).journal
        conclusion := .ended } := by
  rw [symbol] at hr hf ⊢
  rw [feed, hr]
  simp [failureLines, hf]

theorem feed_accepted (hr : (machine.parse (symbol byte)).result = .ok true) :
    feed machine (byte :: bytes) =
      (feed (machine.parse (symbol byte)).machine bytes).after
        [report (machine.parse (symbol byte)).machine byte]
        (machine.parse (symbol byte)).journal := by
  rw [symbol] at hr ⊢
  rw [feed, hr]

end Step

theorem feed_ends (machine : Machine Memory) (bytes : List UInt8) :
    ∃ fed tail, Ends machine bytes [] .open fed tail (feed machine bytes).conclusion ∧
      Tells machine fed tail (feed machine bytes) := by
  induction bytes generalizing machine with
  | nil => exact ⟨[], [], Ends.accepted accepts_nil, rfl, rfl, rfl⟩
  | cons byte bytes ih =>
    have hjournal : (machine.outcomes (symbols [byte])).flatMap Outcome.journal =
        (machine.parse (symbol byte)).journal := List.flatMap_singleton _ _
    rcases hr : (machine.parse (symbol byte)).result with cause | ⟨_ | _⟩
    · rw [feed_refused bytes hr]
      refine ⟨[byte], [], Ends.refused [] bytes byte cause rfl accepts_nil hr, rfl, ?_, ?_⟩
      · simp [blocks, hr]
      · exact hjournal.symm
    · obtain ⟨failure, hf⟩ := Machine.failure_of_parse hr
      rw [feed_failed bytes hr hf]
      refine ⟨[byte], _, Ends.failed [] bytes byte failure rfl accepts_nil hr hf, rfl, ?_, ?_⟩
      · rw [blocks_singleton hr]
        rfl
      · exact hjournal.symm
    · obtain ⟨fed, tail, hends, htells⟩ := ih (machine.parse (symbol byte)).machine
      have ha : Accepts machine [byte] := accepts_singleton.mpr hr
      have hafter : (machine.parse (symbol byte)).machine = machine.feed (symbols [byte]) := rfl
      rw [hafter] at hends htells
      have hlater := htells.later
      rw [← hafter, blocks_singleton hr, hjournal, ← feed_accepted bytes hr] at hlater
      refine ⟨[byte] ++ fed, tail, ?_, hlater⟩
      rw [feed_accepted bytes hr]
      exact Ends.later ha hends

theorem takeLines_open {line : List UInt8} (others : List (List UInt8))
    (h : (takeLine machine line).conclusion = .open) :
    takeLines machine (line :: others) =
      (takeLines (takeLine machine line).machine others).after (takeLine machine line).output
        (takeLine machine line).journal := by
  rw [takeLines, h]

theorem takeLines_stopped {line : List UInt8} (others : List (List UInt8))
    (h : (takeLine machine line).conclusion ≠ .open) :
    takeLines machine (line :: others) = takeLine machine line := by
  rw [takeLines]
  split
  · next hopen => exact absurd hopen h
  · rfl

/-- Lines are taken until one of them, or a byte of one of them, stops the session. -/
theorem takeLines_ends {lines : List (List UInt8)} {bytes : List UInt8} {stop : Stop}
    (h : Dictates lines bytes stop) (machine : Machine Memory) :
    ∃ fed tail, Ends machine bytes stop.output stop.conclusion fed tail
        (takeLines machine lines).conclusion ∧
      Tells machine fed tail (takeLines machine lines) := by
  induction h generalizing machine with
  | endOfInput => exact ⟨[], [], Ends.accepted accepts_nil, rfl, rfl, rfl⟩
  | empty line others hr =>
    have ht : takeLine machine line = { machine, conclusion := .ended } := by
      rw [takeLine, lineText?_eq_some_iff.mpr hr]
    rw [takeLines, ht]
    exact ⟨[], [], Ends.accepted accepts_nil, rfl, rfl, rfl⟩
  | unreadable line others hu =>
    have ht : takeLine machine line = { machine, conclusion := .broken .unreadable } := by
      rw [takeLine, lineText?_eq_none_iff.mpr hu]
    rw [takeLines, ht]
    exact ⟨[], [], Ends.accepted accepts_nil, rfl, rfl, rfl⟩
  | malformed line others pieces rest cause hr htail =>
    have hd : Escaped.decode (Escaped.spelling pieces ++ rest) = .error cause :=
      Escaped.decode_error_iff.mpr ⟨pieces, rest, rfl, htail⟩
    have ht : takeLine machine line =
        { machine, output := ["error: " ++ reason cause ++ "\n"], conclusion := .ended } := by
      rw [takeLine, lineText?_eq_some_iff.mpr hr]
      cases htext : Escaped.spelling pieces ++ rest with
      | nil => simp [htext, Escaped.decode] at hd
      | cons symbol text => simp [← htext, hd, errorLine_eq]
    rw [takeLines, ht]
    exact ⟨[], [_], Ends.accepted accepts_nil, rfl, rfl, rfl⟩
  | typed line others pieces later stop hr hne hl ih =>
    have ht : takeLine machine line = feed machine (Escaped.meaning pieces) :=
      takeLine_typed ⟨_, lineText?_eq_some_iff.mpr hr, mt Escaped.spelling_eq_nil_iff.mp hne,
        Escaped.decode_ok_iff.mpr ⟨pieces, rfl, rfl⟩⟩
    obtain ⟨fed, tail, hends, htells⟩ := feed_ends machine (Escaped.meaning pieces)
    rw [← ht] at hends htells
    generalize hc : (takeLine machine line).conclusion = conclusion at hends
    cases hends with
    | accepted ha =>
      obtain ⟨fed, tail, hends', htells'⟩ := ih (takeLine machine line).machine
      rw [htells.machine] at hends' htells'
      rw [takeLines_open others hc, htells.machine, htells.output, htells.journal,
        List.append_nil]
      exact ⟨Escaped.meaning pieces ++ fed, tail, Ends.later ha hends', htells'.later⟩
    | failed before after byte failure hb ha hres hf =>
      rw [takeLines_stopped others (by simp [hc]), hc]
      refine ⟨_, _, Ends.failed before (after ++ later) byte failure ?_ ha hres hf, htells⟩
      rw [hb, List.append_assoc, List.cons_append]
    | refused before after byte cause hb ha hres =>
      rw [takeLines_stopped others (by simp [hc]), hc]
      refine ⟨_, _, Ends.refused before (after ++ later) byte cause ?_ ha hres, htells⟩
      rw [hb, List.append_assoc, List.cons_append]

end Feeding

/-- A session shows what its input dictates and how far the machine takes it. -/
theorem run_transcribes {Memory : Type} (machine : Machine Memory) (input : List UInt8) :
    ∃ lines bytes stop fed tail, Cut input lines ∧ Dictates lines bytes stop ∧
      Ends machine bytes stop.output stop.conclusion fed tail (run machine input).conclusion ∧
      (run machine input).output =
        "Press <Enter> to exit...\n" :: (blocks machine fed ++ tail) ∧
      (run machine input).outputText =
        "Press <Enter> to exit...\n" ++ String.join (blocks machine fed ++ tail) ∧
      (∀ cause, (run machine input).error? = some cause ↔
        (run machine input).conclusion = .broken cause) ∧
      (run machine input).machine = machine.feed (symbols fed) ∧
      (run machine input).journal =
        (machine.outcomes (symbols fed)).flatMap Outcome.journal := by
  obtain ⟨bytes, stop, hd⟩ := exists_dictates (lines input)
  obtain ⟨fed, tail, hends, htells⟩ := takeLines_ends hd machine
  have houtput : (run machine input).output =
      "Press <Enter> to exit...\n" :: (blocks machine fed ++ tail) :=
    congrArg (prompt :: ·) htells.output
  refine ⟨lines input, bytes, stop, fed, tail, cut_lines input, hd, hends, houtput, ?_, ?_, ?_, ?_⟩
  · rw [outputText, houtput, String.join_cons]
  · intro cause
    rw [error?]
    cases (run machine input).conclusion <;> simp
  · exact htells.machine
  · exact htells.journal

end Session
end StateNest
