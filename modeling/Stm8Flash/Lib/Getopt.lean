import Mathlib.Data.List.Basic
import Mathlib.Data.List.Induction

/-! # `getopt`

The options of a command line, as `getopt` returns them one after the other. One option can be
written in several ways: flags in one word or in words of their own, an argument in the word of
its option or in the next one. `Spells` are all the ways, and `scan_eq_iff` says that these, and no
others, are read as the options and nothing else, whether or not words that are no options are
moved behind the options.
-/

namespace Getopt

variable {α : Type}

/-- What `getopt` returns; `bad` is `?`. -/
inductive Item (α : Type) where
  | flag (c : α)
  | withArg (c : α) (arg : List α)
  | bad
deriving DecidableEq, Repr

/-- What `optstring` says of an option: nothing, or whether a colon follows it. -/
def ofOptstring [DecidableEq α] (colon : α) : List α → α → Option Bool
  | [], _ => none
  | x :: s, c =>
    if c = colon then none
    else if x = c then some (s.head? = some colon)
    else ofOptstring colon s c

section Code

variable [DecidableEq α] (dash : α) (takes : α → Option Bool)

/-- The options of one word, and the one at its end whose argument is the next word. -/
def cluster : List α → List (Item α) × Option α
  | [] => ([], none)
  | c :: cs =>
    match takes c with
    | none => (.bad :: (cluster cs).1, (cluster cs).2)
    | some false => (.flag c :: (cluster cs).1, (cluster cs).2)
    | some true => if cs = [] then ([], some c) else ([.withArg c cs], none)

/-- The options of a word, if it is one of options. -/
def clusterOf : List α → Option (List α)
  | x :: c :: cs => if x = dash then some (c :: cs) else none
  | _ => none

/-- All that `getopt` returns, and the words that are left. With `permute` it goes on behind a word
that is no option, else it stops there. The second argument is an option that waits for its
argument. -/
def scan (permute : Bool) : Option α → List (List α) → List (Item α) × List (List α)
  | none, [] => ([], [])
  | some _, [] => ([.bad], [])
  | some c, a :: rest => (.withArg c a :: (scan permute none rest).1, (scan permute none rest).2)
  | none, a :: rest =>
    if a = [dash, dash] then ([], rest)
    else match clusterOf dash a with
      | some cs =>
        ((cluster takes cs).1 ++ (scan permute (cluster takes cs).2 rest).1,
          (scan permute (cluster takes cs).2 rest).2)
      | none =>
        if permute then ((scan permute none rest).1, a :: (scan permute none rest).2)
        else ([], a :: rest)

end Code

/-! ## The ways to write options -/

/-- The words spell the options. -/
inductive Spells (dash : α) (takes : α → Option Bool) : List (Item α) → List (List α) → Prop
  | nil : Spells dash takes [] []
  | flags {cs : List α} {items : List (Item α)} {args : List (List α)} (ne : cs ≠ [])
      (flag : ∀ c ∈ cs, takes c = some false) (rest : Spells dash takes items args) :
      Spells dash takes (cs.map .flag ++ items) ((dash :: cs) :: args)
  | joined {cs arg : List α} {c : α} {items : List (Item α)} {args : List (List α)}
      (flag : ∀ c ∈ cs, takes c = some false) (option : takes c = some true) (ne : arg ≠ [])
      (rest : Spells dash takes items args) :
      Spells dash takes (cs.map .flag ++ .withArg c arg :: items)
        ((dash :: (cs ++ c :: arg)) :: args)
  | separate {cs arg : List α} {c : α} {items : List (Item α)} {args : List (List α)}
      (flag : ∀ c ∈ cs, takes c = some false) (option : takes c = some true)
      (rest : Spells dash takes items args) :
      Spells dash takes (cs.map .flag ++ .withArg c arg :: items)
        ((dash :: (cs ++ [c])) :: arg :: args)

/-- The words spell the options, with or without a `--` at the end. -/
def Written (dash : α) (takes : α → Option Bool) (items : List (Item α)) (args : List (List α)) :
    Prop :=
  ∃ words, Spells dash takes items words ∧ (args = words ∨ args = words ++ [[dash, dash]])

/-- The same behind an option that waits for its argument. -/
def WrittenFrom (dash : α) (takes : α → Option Bool) :
    Option α → List (Item α) → List (List α) → Prop
  | none, items, args => Written dash takes items args
  | some c, items, args => ∃ arg rest words, items = .withArg c arg :: rest ∧ args = arg :: words ∧
      Written dash takes rest words

section Lemmas

variable {dash : α} {takes : α → Option Bool}

theorem map_flag_ne_bad (cs : List α) : (Item.bad : Item α) ∉ cs.map Item.flag := by
  intro h
  rcases List.mem_map.mp h with ⟨c, -, hc⟩
  cases hc

/-- Flags at the front of a word. -/
theorem cluster_flags {cs : List α} (hflag : ∀ c ∈ cs, takes c = some false) (tail : List α) :
    cluster takes (cs ++ tail) =
      (cs.map .flag ++ (cluster takes tail).1, (cluster takes tail).2) := by
  induction cs with
  | nil => rfl
  | cons c cs ih =>
    have hc := hflag c (List.mem_cons_self ..)
    have hrest := ih fun x hx => hflag x (List.mem_cons_of_mem _ hx)
    simp only [List.cons_append, cluster, hc, hrest, List.map_cons]

theorem cluster_option {c : α} (hc : takes c = some true) (arg : List α) :
    cluster takes (c :: arg) = if arg = [] then ([], some c) else ([.withArg c arg], none) := by
  simp only [cluster, hc]

/-- What a word of options that are all known looks like. -/
theorem cluster_cases {cs : List α} (hgood : Item.bad ∉ (cluster takes cs).1) :
    (cluster takes cs = (cs.map .flag, none) ∧ ∀ c ∈ cs, takes c = some false) ∨
    ∃ fs c arg, cs = fs ++ c :: arg ∧ (∀ c ∈ fs, takes c = some false) ∧ takes c = some true := by
  induction cs with
  | nil => exact Or.inl ⟨rfl, by simp⟩
  | cons c cs ih =>
    rcases hc : takes c with _ | _ | _
    · simp [cluster, hc] at hgood
    · simp only [cluster, hc, List.mem_cons, not_or] at hgood
      rcases ih hgood.2 with ⟨hcluster, hflag⟩ | ⟨fs, o, arg, rfl, hflag, ho⟩
      · refine Or.inl ⟨?_, ?_⟩
        · simp only [cluster, hc, hcluster, List.map_cons]
        · exact List.forall_mem_cons.mpr ⟨hc, hflag⟩
      · exact Or.inr ⟨c :: fs, o, arg, rfl, List.forall_mem_cons.mpr ⟨hc, hflag⟩, ho⟩
    · exact Or.inr ⟨[], c, cs, rfl, by simp, hc⟩

theorem Spells.good {items : List (Item α)} {args : List (List α)}
    (h : Spells dash takes items args) : Item.bad ∉ items := by
  induction h with
  | nil => simp
  | flags _ _ _ ih =>
    rw [List.mem_append, not_or]
    exact ⟨map_flag_ne_bad _, ih⟩
  | joined _ _ _ _ ih =>
    rw [List.mem_append, List.mem_cons, not_or, not_or]
    exact ⟨map_flag_ne_bad _, by simp, ih⟩
  | separate _ _ _ ih =>
    rw [List.mem_append, List.mem_cons, not_or, not_or]
    exact ⟨map_flag_ne_bad _, by simp, ih⟩

variable [DecidableEq α]

/-- A word of options is none of the others. -/
theorem scan_word {x : α} {cs : List α} (permute : Bool) (hx : takes dash = none)
    (hknown : takes x ≠ none) (rest : List (List α)) :
    scan dash takes permute none ((dash :: x :: cs) :: rest) =
      ((cluster takes (x :: cs)).1 ++ (scan dash takes permute (cluster takes (x :: cs)).2 rest).1,
        (scan dash takes permute (cluster takes (x :: cs)).2 rest).2) := by
  have hne : ¬(dash :: x :: cs) = [dash, dash] := by
    intro h
    cases h
    exact hknown hx
  rw [scan, if_neg hne, clusterOf, if_pos rfl]

/-- However options are written, they are read, and then the words behind them. -/
theorem scan_spells {items : List (Item α)} {args : List (List α)}
    (h : Spells dash takes items args) (hdash : takes dash = none) (permute : Bool)
    (tail : List (List α)) :
    scan dash takes permute none (args ++ tail) =
      (items ++ (scan dash takes permute none tail).1, (scan dash takes permute none tail).2) := by
  induction h with
  | nil => rfl
  | @flags cs items args ne flag rest ih =>
    rcases cs with _ | ⟨x, cs⟩
    · exact absurd rfl ne
    · have hx := flag x (List.mem_cons_self ..)
      have hcluster := cluster_flags flag []
      rw [List.append_nil] at hcluster
      rw [List.cons_append, scan_word permute hdash (by simp [hx]), hcluster]
      simp only [cluster, List.append_nil, List.append_assoc, ih]
  | @joined cs arg c items args flag option ne rest ih =>
    have hcluster := cluster_flags flag (c :: arg)
    rw [cluster_option option, if_neg ne] at hcluster
    obtain ⟨x, word, hword, hx⟩ : ∃ x word, cs ++ c :: arg = x :: word ∧ takes x ≠ none := by
      rcases cs with _ | ⟨x, cs⟩
      · exact ⟨c, arg, rfl, by simp [option]⟩
      · exact ⟨x, cs ++ c :: arg, rfl, by simp [flag x (List.mem_cons_self ..)]⟩
    rw [List.cons_append, hword, scan_word permute hdash hx, ← hword, hcluster]
    simp only [List.append_assoc, ih, List.cons_append, List.nil_append]
  | @separate cs arg c items args flag option rest ih =>
    have hcluster := cluster_flags flag [c]
    rw [cluster_option option, if_pos rfl] at hcluster
    obtain ⟨x, word, hword, hx⟩ : ∃ x word, cs ++ [c] = x :: word ∧ takes x ≠ none := by
      rcases cs with _ | ⟨x, cs⟩
      · exact ⟨c, [], rfl, by simp [option]⟩
      · exact ⟨x, cs ++ [c], rfl, by simp [flag x (List.mem_cons_self ..)]⟩
    rw [List.cons_append, hword, scan_word permute hdash hx, ← hword, hcluster, List.cons_append]
    simp only [scan, List.append_nil, List.append_assoc, ih, List.cons_append]

theorem clusterOf_eq {a cs : List α} (h : clusterOf dash a = some cs) :
    a = dash :: cs ∧ cs ≠ [] := by
  rcases a with _ | ⟨x, _ | ⟨c, a⟩⟩
  · cases h
  · cases h
  · rw [clusterOf] at h
    split at h
    · rename_i hx
      cases h
      exact ⟨by rw [hx], by simp⟩
    · cases h

/-- What is read as options only has been written as such. -/
theorem written_of_scan {permute : Bool} {want : Option α} {args : List (List α)}
    {items : List (Item α)} (h : scan dash takes permute want args = (items, []))
    (hgood : Item.bad ∉ items) : WrittenFrom dash takes want items args := by
  induction args generalizing want items with
  | nil =>
    rcases want with _ | c
    · cases h
      exact ⟨[], .nil, Or.inl rfl⟩
    · cases h
      simp at hgood
  | cons a args ih =>
    rcases want with _ | c
    · by_cases hend : a = [dash, dash]
      · rw [scan, if_pos hend] at h
        cases h
        exact ⟨[], .nil, Or.inr (by rw [hend]; rfl)⟩
      rw [scan, if_neg hend] at h
      rcases hword : clusterOf dash a with _ | cs
      · -- the word would be left
        rw [hword] at h
        cases permute <;> cases h
      rw [hword] at h
      simp only [Prod.mk.injEq] at h
      obtain ⟨rfl, hleft⟩ := h
      rw [List.mem_append, not_or] at hgood
      have hrest := @ih (cluster takes cs).2 (scan dash takes permute (cluster takes cs).2 args).1
        (Prod.ext rfl hleft) hgood.2
      obtain ⟨rfl, hne⟩ := clusterOf_eq hword
      rcases cluster_cases hgood.1 with ⟨hcluster, hflag⟩ | ⟨fs, c, arg, rfl, hflag, hc⟩
      · rw [hcluster] at hrest ⊢
        obtain ⟨words, hspells, hargs⟩ := hrest
        refine ⟨_, .flags hne hflag hspells, ?_⟩
        rcases hargs with rfl | rfl
        · exact Or.inl rfl
        · exact Or.inr rfl
      · have hcluster := cluster_flags hflag (c :: arg)
        rw [cluster_option hc] at hcluster
        by_cases harg : arg = []
        · subst harg
          rw [if_pos rfl, List.append_nil] at hcluster
          rw [hcluster] at hrest ⊢
          obtain ⟨arg, rest, words, hitems, rfl, words', hspells, hargs⟩ := hrest
          simp only at hitems ⊢
          rw [hitems]
          refine ⟨_, .separate hflag hc hspells, ?_⟩
          rcases hargs with rfl | rfl
          · exact Or.inl rfl
          · exact Or.inr rfl
        · rw [if_neg harg] at hcluster
          rw [hcluster] at hrest ⊢
          obtain ⟨words, hspells, hargs⟩ := hrest
          simp only [List.append_assoc, List.cons_append, List.nil_append]
          refine ⟨_, .joined hflag hc harg hspells, ?_⟩
          rcases hargs with rfl | rfl
          · exact Or.inl rfl
          · exact Or.inr rfl
    · simp only [scan, Prod.mk.injEq] at h
      obtain ⟨rfl, hleft⟩ := h
      simp only [List.mem_cons, not_or] at hgood
      exact ⟨a, _, args, rfl, rfl, @ih none _ (Prod.ext rfl hleft) hgood.2⟩

/-- Words are read as known options, with nothing left, if and only if they spell them. -/
theorem scan_eq_iff (hdash : takes dash = none) (permute : Bool) {items : List (Item α)}
    {args : List (List α)} :
    (scan dash takes permute none args = (items, []) ∧ Item.bad ∉ items) ↔
      Written dash takes items args := by
  constructor
  · rintro ⟨h, hgood⟩
    exact written_of_scan h hgood
  · rintro ⟨words, hspells, rfl | rfl⟩
    · have h := scan_spells hspells hdash permute []
      rw [List.append_nil] at h
      rw [h]
      exact ⟨by simp [scan], hspells.good⟩
    · rw [scan_spells hspells hdash permute [[dash, dash]]]
      exact ⟨by simp [scan], hspells.good⟩

end Lemmas

/-! ## Variables that options set -/

section Variables

variable {ι β : Type}

/-- The value that the last of the options sets, of those that set one. -/
def lastOf (sets : ι → Option β) (items : List ι) : Option β := (items.filterMap sets).getLast?

/-- A variable that each option may overwrite. -/
theorem foldl_lastOf (sets : ι → Option β) (v : β) (items : List ι) :
    items.foldl (fun v i => (sets i).getD v) v = (lastOf sets items).getD v := by
  unfold lastOf
  induction items using List.reverseRecOn with
  | nil => rfl
  | append_singleton items i ih =>
    rw [List.foldl_append, List.foldl_cons, List.foldl_nil, ih, List.filterMap_append]
    rcases hi : sets i with _ | b
    · simp [hi]
    · simp [hi]

/-- Options that set nothing can be left out. -/
theorem lastOf_filter {sets : ι → Option β} {p : ι → Bool}
    (h : ∀ i, (sets i).isSome = true → p i = true) (items : List ι) :
    lastOf sets (items.filter p) = lastOf sets items := by
  unfold lastOf
  congr 1
  induction items with
  | nil => rfl
  | cons i items ih =>
    rcases hi : sets i with _ | b
    · rw [List.filterMap_cons_none hi, ← ih, List.filter_cons]
      split
      · rw [List.filterMap_cons_none hi]
      · rfl
    · rw [List.filter_cons, if_pos (h i (by rw [hi]; rfl)), List.filterMap_cons_some hi,
        List.filterMap_cons_some hi, ih]

theorem lastOf_eq_none {sets : ι → Option β} {items : List ι} :
    lastOf sets items = none ↔ ∀ i ∈ items, sets i = none := by
  unfold lastOf
  rw [List.getLast?_eq_none_iff, List.filterMap_eq_nil_iff]

/-- The last value is set by one of the options. -/
theorem lastOf_mem {sets : ι → Option β} {items : List ι} {b : β}
    (h : lastOf sets items = some b) : ∃ i ∈ items, sets i = some b := by
  unfold lastOf at h
  have hmem := List.mem_of_getLast? h
  rw [List.mem_filterMap] at hmem
  exact hmem

/-- A variable among others, when every option sets it or leaves it. -/
theorem foldl_field {σ : Type} {step : σ → ι → σ} (field : σ → β) {sets : ι → Option β}
    (h : ∀ s i, field (step s i) = (sets i).getD (field s)) (s : σ) (items : List ι) :
    field (items.foldl step s) = (lastOf sets items).getD (field s) := by
  rw [← foldl_lastOf]
  exact (List.foldl_hom field fun s i => (h s i).symm).symm

theorem lastOf_map {γ : Type} (f : β → γ) (sets : ι → Option β) (items : List ι) :
    lastOf (fun i => (sets i).map f) items = (lastOf sets items).map f := by
  unfold lastOf
  rw [← List.getLast?_map, List.map_filterMap]

/-- A flag among others that some options set. -/
theorem foldl_flag {σ : Type} {step : σ → ι → σ} (field : σ → Bool) {p : ι → Bool}
    (h : ∀ s i, field (step s i) = (field s || p i)) (s : σ) (items : List ι) :
    field (items.foldl step s) = (field s || items.any p) := by
  induction items generalizing s with
  | nil => simp
  | cons i items ih => rw [List.foldl_cons, ih, h, List.any_cons, Bool.or_assoc]

/-- A variable of which a flag says whether an option has set it. -/
theorem any_isSome (sets : ι → Option β) (items : List ι) :
    (items.any fun i => (sets i).isSome) = (lastOf sets items).isSome := by
  rw [Bool.eq_iff_iff, List.any_eq_true]
  constructor
  · rintro ⟨i, hi, hset⟩
    by_contra hnone
    rw [Bool.not_eq_true, Option.isSome_eq_false_iff, Option.isNone_iff_eq_none,
      lastOf_eq_none] at hnone
    rw [hnone i hi] at hset
    cases hset
  · intro h
    rcases Option.isSome_iff_exists.mp h with ⟨b, hb⟩
    rcases lastOf_mem hb with ⟨i, hi, hset⟩
    exact ⟨i, hi, by rw [hset]; rfl⟩

/-- An error, or the value without one. -/
def stopOr {σ ε : Type} : Option ε → σ → Except ε σ
  | some e, _ => .error e
  | none, s => .ok s

/-- A loop over the options that some of them leave: the first of these decides. -/
theorem foldlM_exits {σ ε : Type} {step : σ → ι → Except ε σ} {exit : ι → Option ε}
    {assign : σ → ι → σ} (h : ∀ s i, step s i = stopOr (exit i) (assign s i))
    (s : σ) (items : List ι) :
    items.foldlM step s = stopOr (items.findSome? exit) (items.foldl assign s) := by
  induction items generalizing s with
  | nil => rfl
  | cons i items ih =>
    rw [List.foldlM_cons, h, List.findSome?_cons]
    cases exit i with
    | some e => rfl
    | none => exact ih (assign s i)

end Variables

end Getopt
