import Mathlib.Data.List.DropRight
import LineScript.Proofs.Debug.Arguments
import LineScript.Proofs.Debug.Turn
import LineScript.Proofs.Registry.History
import LineScript.Text.Utf8

/-!
What a session offers to complete a word. The cursor cuts a text into what is before the word, the word,
and what is behind the cursor (`AtCursor`), each of whole characters, whatever their widths. Offered is
everything that begins with the word: keywords, functions and variables, in this order
(`completions_answer`).
-/

namespace LineScript.Debug

open Unicode

/-- A text around a cursor: what is before the word at the cursor, the word, and what is behind. -/
structure AtCursor (text : Text) (column : Option Int) (before word behind : Text) : Prop where
  text_eq : text = before ++ word ++ behind
  /-- Columns count from 1, and those beyond the end are at the end. -/
  length : ∀ c, column = some c → 1 ≤ c → ((before ++ word).length : Int) = min (c - 1) text.length
  whole : (∀ c, column = some c → c < 1) → behind = []
  isWord : ∀ c ∈ word, isWordChar c = true
  longest : ∀ w, w <:+ before ++ word → (∀ c ∈ w, isWordChar c = true) → w <:+ word

/-- A text is cut in its bytes behind a word, and before the word, and both times what is cut out are
whole characters. -/
def CutsBytes (text before word : Text) : Prop :=
  let start := (Text.toBytes before).length
  let stop := start + (Text.toBytes word).length
  Text.ofBytes? ((Text.toBytes text).take stop) = some (before ++ word) ∧
    Text.ofBytes? (((Text.toBytes text).take stop).drop start) = some word

namespace Completion

variable {text : Text} {column : Option Int}

/-! ## The word at the cursor -/

/-- A word at the end of a text is part of the last word. -/
theorem suffix_lastWord {t w : Text} (h : w <:+ t) (hword : ∀ c ∈ w, isWordChar c = true) :
    w <:+ lastWord t := by
  obtain ⟨front, rfl⟩ := h
  have hrev : ∀ c ∈ w.reverse, isWordChar c = true := fun c hc => hword c (List.mem_reverse.mp hc)
  rw [lastWord, List.reverse_append, List.takeWhile_append_of_pos hrev, List.reverse_append,
    List.reverse_reverse]
  exact List.suffix_append _ _

theorem beforeCursor_prefix (t : Text) (column : Option Int) : beforeCursor t column <+: t := by
  unfold beforeCursor
  split
  · split
    · exact List.take_prefix _ _
    · exact List.prefix_rfl
  · exact List.prefix_rfl

theorem exists_atCursor (text : Text) (column : Option Int) :
    ∃ before behind, AtCursor text column before (lastWord (beforeCursor text column)) behind := by
  obtain ⟨behind, hbehind⟩ := beforeCursor_prefix text column
  obtain ⟨before, hbefore⟩ : lastWord (beforeCursor text column) <:+ beforeCursor text column :=
    List.rtakeWhile_suffix isWordChar _
  refine ⟨before, behind, ?_, ?_, ?_, fun c => List.mem_rtakeWhile_imp, ?_⟩
  · rw [hbefore, hbehind]
  · rintro c rfl hc
    rw [hbefore, beforeCursor, if_pos hc, List.length_take]
    omega
  · intro hcolumn
    have hall : beforeCursor text column = text := by
      unfold beforeCursor
      split
      · next c =>
        rw [if_neg]
        have := hcolumn c rfl
        omega
      · rfl
    rw [hall] at hbehind
    exact List.append_right_eq_self.mp hbehind
  · rw [hbefore]
    exact fun w => suffix_lastWord

variable {before word behind : Text}

theorem beforeCursor_eq (h : AtCursor text column before word behind) :
    beforeCursor text column = before ++ word := by
  have hwhole : behind = [] → text = before ++ word := by
    rintro rfl
    rw [h.text_eq, List.append_nil]
  cases column with
  | none => exact hwhole (h.whole fun c hc => by contradiction)
  | some c =>
    by_cases hc : 1 ≤ c
    · have hlength := h.length c rfl hc
      rw [beforeCursor, if_pos hc]
      have hprefix : before ++ word <+: text := ⟨behind, h.text_eq.symm⟩
      have htake : text.take (c - 1).toNat = text.take (before ++ word).length := by
        rw [List.take_eq_take_iff]
        omega
      rw [htake, ← List.prefix_iff_eq_take.mp hprefix]
    · rw [beforeCursor, if_neg hc]
      refine hwhole (h.whole fun c' hc' => ?_)
      obtain rfl := Option.some.inj hc'
      exact Int.not_le.mp hc

/-- There is only one word at a cursor. -/
theorem eq_lastWord (h : AtCursor text column before word behind) :
    word = lastWord (beforeCursor text column) := by
  rw [beforeCursor_eq h]
  have hlast : lastWord (before ++ word) <:+ word :=
    h.longest _ (List.rtakeWhile_suffix isWordChar _) fun c => List.mem_rtakeWhile_imp
  have hword : word <:+ lastWord (before ++ word) :=
    suffix_lastWord (List.suffix_append before word) h.isWord
  exact hword.eq_of_length_le hlast.length_le

/-! ## What is offered -/

theorem filter_map_label (word : Text) (kind : CompletionKind) (labels : List Text) :
    ((labels.map (Completion.mk · kind)).filter fun c => word.isPrefixOf c.label) =
      (labels.filter (word <+: ·)).map (Completion.mk · kind) := by
  rw [List.filter_map]
  congr 2
  funext label
  exact Bool.eq_iff_iff.mpr (by simp)

/-- The names of the core functions are listed in strict order. -/
theorem pairwise_coreNames : Catalogue.coreRegistry.names.Pairwise (· < ·) :=
  (Registry.reflects_empty.registerAll Catalogue.core).pairwise_names

theorem mem_coreNames (name : Text) :
    name ∈ Catalogue.coreRegistry.names ↔ ∃ e ∈ Catalogue.core, name ∈ e.names := by
  have hnone := (Registry.reflects_empty.registerAll Catalogue.core).lookup?_eq_none name
  rw [Registry.mem_names, Option.isSome_iff_ne_none, Catalogue.coreRegistry, ne_eq, hnone]
  simp

/-- Everything that begins with the word at the cursor, in order. -/
theorem complete_eq (text : Text) (column : Option Int) (vars : Variables) :
    let word := lastWord (beforeCursor text column)
    complete text column vars =
      (keywords.filter (word <+: ·)).map (⟨·, .keyword⟩) ++
        (Catalogue.coreRegistry.names.filter (word <+: ·)).map (⟨·, .function⟩) ++
          (vars.keys.filter (word <+: ·)).map (⟨·, .boundName⟩) := by
  simp only [complete, candidates, List.filter_append, filter_map_label]

end Completion

theorem AtCursor.cutsBytes {text before word behind : Text} {column : Option Int}
    (h : AtCursor text column before word behind) : CutsBytes text before word := by
  have hhead : (Text.toBytes text).take ((Text.toBytes before).length + (Text.toBytes word).length) =
      Text.toBytes (before ++ word) := by
    rw [h.text_eq, Text.toBytes_append (before ++ word)]
    refine List.take_left' ?_
    rw [Text.toBytes_append, List.length_append]
  refine ⟨by rw [hhead, Text.ofBytes?_toBytes], ?_⟩
  rw [hhead, Text.toBytes_append, List.drop_left' rfl, Text.ofBytes?_toBytes]

namespace DebugSession

/-- A session answers a request for completions, whatever text and column it gives, with what begins
with the longest word that ends at the cursor: first the keywords in the order of their table, then the
names and aliases of the core functions in strict order, then the variables of the runtime in the order
in which they were defined. Behind the answer come the events that are queued, if there are any. A text
and a column that are written as an object are read as they are. A column cuts the text between two
characters, also where these take more than a byte. -/
theorem completions_answer (s : DebugSession) (r : Request) (text : Text) (column : Option Int)
    (hcommand : Command.ofName? r.command = some .completions) :
    let vars : Variables := (s.runtime.map (·.vars)).getD []
    let given := CompletionArguments.read r.given
    (r.arguments = some (CompletionArguments.json text column) →
      (∀ c, column = some c → c ≤ Json.greatestSigned) → given = .ok ⟨text, column⟩) ∧
    (given = .ok ⟨text, column⟩ → ∃ (before word behind : Text) (functions : List Text),
      AtCursor text column before word behind ∧ CutsBytes text before word ∧
      functions.Pairwise (· < ·) ∧
      (∀ name, name ∈ functions ↔ word <+: name ∧ ∃ e ∈ Catalogue.core, name ∈ e.names) ∧
      (s.handle r).1 = .response s.nextSeq r.seq r.command (.completions
        ((Completion.keywords.filter (word <+: ·)).map (⟨·, .keyword⟩) ++
          functions.map (⟨·, .function⟩) ++
            (vars.keys.filter (word <+: ·)).map (⟨·, .boundName⟩))) ::
              eventMessages (s.nextSeq + 1) s.pending) := by
  intro vars given
  refine ⟨fun harguments hsmall => ?_, fun hgiven => ?_⟩
  · have hobject : r.given = CompletionArguments.json text column := by
      rw [Request.given, harguments]
      rfl
    simp only [given, hobject]
    exact CompletionArguments.read_json text hsmall
  · obtain ⟨before, behind, hcursor⟩ := Completion.exists_atCursor text column
    generalize hword : Completion.lastWord (Completion.beforeCursor text column) = word at hcursor
    refine ⟨before, word, behind, Catalogue.coreRegistry.names.filter (word <+: ·), hcursor,
      hcursor.cutsBytes, Completion.pairwise_coreNames.filter _, fun name => ?_, ?_⟩
    · rw [List.mem_filter, Completion.mem_coreNames, decide_eq_true_eq, and_comm]
    · have hcomplete := Completion.complete_eq text column vars
      simp only [hword] at hcomplete
      simp only [given] at hgiven
      have hhandled : s.handled r = s.answer (.completions (Completion.complete text column vars)) := by
        rw [handled_known hcommand, dispatch, withArguments, hgiven]
      rw [handle_of_answer hhandled, ← hcomplete]

/-- The cursor is in the middle of the name of a function, of which every character takes three bytes. A
variable begins with the same character. -/
theorem completions_answer_wide :
    let text := "x = 打印(1)".toList
    let r : Request := ⟨7, "completions".toList, some (CompletionArguments.json text (some 6))⟩
    let vars : Variables := [("x".toList, .null), ("打击".toList, .bool true)]
    let s := { start (.ofSeed 0) with runtime := some ⟨"a.ln".toList, vars, [], false⟩ }
    ∃ functions : List Text, "打印".toList ∈ functions ∧
      (s.handle r).1 = [.response 1 7 "completions".toList (.completions
        (functions.map (⟨·, .function⟩) ++ [⟨"打击".toList, .boundName⟩]))] := by
  intro text r vars s
  obtain ⟨hread, hanswer⟩ := completions_answer s r text (some 6) rfl
  obtain ⟨before, word, behind, functions, hcursor, -, -, hmem, hresponse⟩ :=
    hanswer (hread rfl fun c hc => by obtain rfl := Option.some.inj hc; decide)
  have hword : word = "打".toList :=
    (Completion.eq_lastWord hcursor).trans (by decide +kernel)
  subst hword
  refine ⟨functions, (hmem _).mpr (by decide), ?_⟩
  exact hresponse

end DebugSession

end LineScript.Debug
