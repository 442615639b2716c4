import DiagramBridge.Text.Case
import DiagramBridge.Text.Rewrite
import DiagramBridge.Text.Search
import Mathlib.Data.List.Basic
import Mathlib.Data.List.TakeDrop
import Mathlib.Data.Option.Basic
import Mathlib.Tactic.Common

/-!
# What searches find

Each search of a text is described by the way the text is put together: a word is found at the
front exactly when the text is that word with the rest appended, at the end exactly when it is the
word behind some front. A span stops where its predicate fails, so it gives back the two parts of
an appended text as soon as the second part begins with a character of the other kind.

`Stops p s` says that `s` does not begin with a character of the kind `p`. It is the side condition
of every scanner that reads as far as it can.

Rewriting is described by what it does at the front: it copies a stretch at none of whose places
the rule applies, and it replaces a stretch that the rule names there.

Statements about all characters are decided by going through the whole range of characters; where
only those of a text are meant, it is enough to go through the text.
-/

namespace DiagramBridge.Text

/-! ## Deciding -/

instance (priority := high) decidableForallMemText {p : Char → Prop} [DecidablePred p]
    (s : List Char) : Decidable (∀ c ∈ s, p c) :=
  List.decidableBAll p s

instance (priority := high) decidableForallMemHead {p : Char → Prop} [DecidablePred p] :
    (c? : Option Char) → Decidable (∀ c ∈ c?, p c)
  | none => isTrue fun _ h => nomatch h
  | some c => decidable_of_iff (p c) (by simp)

instance (priority := high) decidableExistsMemHead {p : Char → Prop} [DecidablePred p] :
    (c? : Option Char) → Decidable (∃ c ∈ c?, p c)
  | none => isFalse fun ⟨_, h, _⟩ => nomatch h
  | some c => decidable_of_iff (p c) (by simp)

/-! ## Words and spans -/

theorem after?_eq_some_iff {word : String} {s rest : List Char} :
    after? word s = some rest ↔ word.toList ++ rest = s :=
  List.isPrefixOf?_eq_some_iff_append_eq

@[simp] theorem after?_append (word : String) (rest : List Char) :
    after? word (word.toList ++ rest) = some rest :=
  after?_eq_some_iff.2 rfl

theorem isPrefixOf?_eq_none_iff {word s : List Char} :
    word.isPrefixOf? s = none ↔ ¬ word <+: s := by
  constructor
  · rintro h ⟨rest, rfl⟩
    rw [List.isPrefixOf?_eq_some_iff_append_eq.2 rfl] at h
    exact absurd h (by simp)
  · intro h
    cases hs : word.isPrefixOf? s with
    | none => rfl
    | some rest => exact absurd ⟨rest, List.isPrefixOf?_eq_some_iff_append_eq.1 hs⟩ h

theorem after?_eq_none_iff {word : String} {s : List Char} :
    after? word s = none ↔ ¬ word.toList <+: s :=
  isPrefixOf?_eq_none_iff

theorem startsWith_iff {word : String} {s : List Char} :
    startsWith word s = true ↔ word.toList <+: s := by
  rw [startsWith, List.isPrefixOf_iff_prefix]

theorem beforeEnd?_eq_some_iff {word : String} {s front : List Char} :
    beforeEnd? word s = some front ↔ front ++ word.toList = s := by
  rw [beforeEnd?, Option.map_eq_some_iff]
  constructor
  · rintro ⟨r, hr, rfl⟩
    have h := List.isPrefixOf?_eq_some_iff_append_eq.1 hr
    simpa using congrArg List.reverse h
  · rintro rfl
    refine ⟨front.reverse, ?_, List.reverse_reverse front⟩
    exact List.isPrefixOf?_eq_some_iff_append_eq.2 (by simp)

@[simp] theorem beforeEnd?_append (word : String) (front : List Char) :
    beforeEnd? word (front ++ word.toList) = some front :=
  beforeEnd?_eq_some_iff.2 rfl

theorem occursIn_iff {needle s : List Char} : occursIn needle s = true ↔ needle <:+: s := by
  induction s with
  | nil => simp [occursIn]
  | cons c s ih =>
      rw [occursIn, Bool.or_eq_true, List.isPrefixOf_iff_prefix, ih, List.infix_cons_iff]

/-- A text that does not begin with a character of the given kind. -/
def Stops (p : Char → Bool) (s : List Char) : Prop :=
  ∀ c ∈ s.head?, p c = false

instance (p : Char → Bool) (s : List Char) : Decidable (Stops p s) :=
  inferInstanceAs (Decidable (∀ c ∈ s.head?, p c = false))

/-- Characters of different kinds are different. -/
theorem ne_of_kind {p : Char → Bool} {c d : Char} (hc : p c = true) (hd : p d = false) : c ≠ d := by
  rintro rfl
  rw [hc] at hd
  exact absurd hd (by simp)

@[simp] theorem stops_nil (p : Char → Bool) : Stops p [] := by
  intro c hc
  simp at hc

@[simp] theorem stops_cons_iff {p : Char → Bool} {c : Char} {s : List Char} :
    Stops p (c :: s) ↔ p c = false := by
  simp [Stops]

theorem stops_of_forall {p : Char → Bool} {s : List Char} (h : ∀ c ∈ s, p c = false) : Stops p s :=
  fun c hc => h c (List.mem_of_mem_head? hc)

theorem Stops.append {p : Char → Bool} {s t : List Char} (hs : Stops p s) (hne : s ≠ []) :
    Stops p (s ++ t) := by
  cases s with
  | nil => exact absurd rfl hne
  | cons c s => simpa using hs

theorem Stops.mono {p q : Char → Bool} {s : List Char} (h : Stops p s)
    (hpq : ∀ c, p c = false → q c = false) : Stops q s :=
  fun c hc => hpq c (h c hc)

theorem Stops.of_isPrefix {p : Char → Bool} {s t : List Char} (h : Stops p s) (ht : t <+: s) :
    Stops p t := by
  obtain ⟨e, rfl⟩ := ht
  cases t with
  | nil => exact stops_nil p
  | cons c t => exact h

theorem stops_dropWhile (p : Char → Bool) (s : List Char) : Stops p (s.dropWhile p) := by
  intro c hc
  have h := List.head?_dropWhile_not p s
  rwa [Option.mem_def.1 hc] at h

/-- The end of a text that is no empty one decides how a longer text ends. -/
theorem stops_reverse_append {p : Char → Bool} {t : List Char} (ht : Stops p t.reverse)
    (hne : t ≠ []) (s : List Char) : Stops p (s ++ t).reverse := by
  rw [List.reverse_append]
  exact ht.append (by simpa using hne)

/-- Where both parts of a text end well, the text does. -/
theorem Stops.reverse_append {p : Char → Bool} {s t : List Char} (hs : Stops p s.reverse)
    (ht : Stops p t.reverse) : Stops p (s ++ t).reverse := by
  cases t with
  | nil => rwa [List.append_nil]
  | cons c t => exact stops_reverse_append ht (by simp) s

theorem dropWhile_of_stops {p : Char → Bool} {s : List Char} (h : Stops p s) :
    s.dropWhile p = s := by
  cases s with
  | nil => rfl
  | cons c s => exact List.dropWhile_cons_of_neg (by simp [stops_cons_iff.1 h])

theorem takeWhile_of_stops {p : Char → Bool} {s : List Char} (h : Stops p s) :
    s.takeWhile p = [] := by
  cases s with
  | nil => rfl
  | cons c s => exact List.takeWhile_cons_of_neg (by simp [stops_cons_iff.1 h])

theorem dropWhile_append_of_stops {p : Char → Bool} {s rest : List Char}
    (hs : ∀ c ∈ s, p c = true) (hr : Stops p rest) : (s ++ rest).dropWhile p = rest := by
  rw [List.dropWhile_append_of_pos hs, dropWhile_of_stops hr]

theorem takeWhile_append_of_stops {p : Char → Bool} {s rest : List Char}
    (hs : ∀ c ∈ s, p c = true) (hr : Stops p rest) : (s ++ rest).takeWhile p = s := by
  rw [List.takeWhile_append_of_pos hs, takeWhile_of_stops hr, List.append_nil]

theorem span_append_of_stops {p : Char → Bool} {s rest : List Char}
    (hs : ∀ c ∈ s, p c = true) (hr : Stops p rest) : (s ++ rest).span p = (s, rest) := by
  rw [List.span_eq_takeWhile_dropWhile, takeWhile_append_of_stops hs hr,
    dropWhile_append_of_stops hs hr]

theorem span_of_forall {p : Char → Bool} {s : List Char} (hs : ∀ c ∈ s, p c = true) :
    s.span p = (s, []) := by
  have h := span_append_of_stops hs (stops_nil p)
  rwa [List.append_nil] at h

theorem cutAt?_append {c : Char} {s : List Char} (h : c ∉ s) (rest : List Char) :
    cutAt? c (s ++ c :: rest) = some (s, rest) := by
  have hs : ∀ d ∈ s, (d != c) = true := by
    intro d hd
    simpa using fun hdc : d = c => h (hdc ▸ hd)
  rw [cutAt?, span_append_of_stops hs (by simp)]

/-! ## Fixed words before other texts -/

/-- A word that is no prefix of another, even with the next character, is none of a longer text. -/
theorem not_prefix_append {p w rest : List Char} (hshort : ¬ p <+: w)
    (hlong : ∀ c ∈ rest.head?, w ++ [c] ≠ p) (hlength : p.length ≤ w.length + 1) :
    ¬ p <+: w ++ rest := by
  intro hpre
  cases rest with
  | nil => exact hshort (by rwa [List.append_nil] at hpre)
  | cons c rest =>
      have hnext : p <+: w ++ [c] := by
        refine List.prefix_of_prefix_length_le hpre ⟨rest, by simp⟩ ?_
        rwa [List.length_append, List.length_singleton]
      rcases List.prefix_concat_iff.1 hnext with heq | hpre
      · exact hlong c rfl heq.symm
      · exact hshort hpre

/-- A run of characters of one kind at the front of a text lies in the first run of the text. -/
theorem isPrefix_of_append {p : Char → Bool} {w s rest : List Char}
    (hw : ∀ c ∈ w, p c = true) (hrest : Stops p rest) (h : w <+: s ++ rest) : w <+: s := by
  induction s generalizing w with
  | nil =>
      cases w with
      | nil => exact List.prefix_refl _
      | cons c w =>
          obtain ⟨t, ht⟩ := h
          rw [List.nil_append] at ht
          rw [← ht, List.cons_append, stops_cons_iff, hw c (by simp)] at hrest
          exact absurd hrest (by simp)
  | cons d s ih =>
      cases w with
      | nil => exact List.nil_prefix
      | cons c w =>
          rw [List.cons_append, List.cons_prefix_cons] at h
          rw [List.cons_prefix_cons]
          exact ⟨h.1, ih (fun e he => hw e (by simp [he])) h.2⟩

/-- What begins a text of two parts lies in the first part or goes on into the second. -/
theorem isPrefix_append_cases {p s t : List Char} (h : p <+: s ++ t) :
    p <+: s ∨ ∃ q, p = s ++ q ∧ q <+: t := by
  rcases List.prefix_or_prefix_of_prefix h (List.prefix_append s t) with hp | ⟨q, rfl⟩
  · exact .inl hp
  · exact .inr ⟨q, rfl, (List.prefix_append_right_inj s).1 h⟩

/-- A word that can begin nowhere in the front of a text stands behind it. -/
theorem isInfix_of_append_left {p a s : List Char} (hne : p ≠ []) (ha : ∀ c ∈ p.head?, c ∉ a)
    (h : p <:+: a ++ s) : p <:+: s := by
  induction a with
  | nil => exact h
  | cons c a ih =>
      rcases List.infix_cons_iff.1 h with hpre | h
      · cases p with
        | nil => exact absurd rfl hne
        | cons d p =>
            obtain ⟨rfl, -⟩ := List.cons_prefix_cons.1 hpre
            exact absurd List.mem_cons_self (ha d rfl)
      · exact ih (fun d hd => fun hmem => ha d hd (List.mem_cons_of_mem c hmem)) h

/-- A word that can end nowhere in the end of a text stands before it. -/
theorem isInfix_of_append {p s b : List Char} (hne : p ≠ []) (hb : ∀ c ∈ p.getLast?, c ∉ b)
    (h : p <:+: s ++ b) : p <:+: s := by
  rw [← List.reverse_infix] at h ⊢
  rw [List.reverse_append] at h
  refine isInfix_of_append_left (by simpa using hne) (fun c hc hmem => ?_) h
  rw [List.head?_reverse] at hc
  exact hb c hc (List.mem_reverse.1 hmem)

/-- A word without a certain character does not reach across it. -/
theorem isInfix_append_cons_iff {p s t : List Char} {c : Char} (hc : c ∉ p) :
    p <:+: s ++ c :: t ↔ p <:+: s ∨ p <:+: t := by
  constructor
  · intro h
    induction s with
    | nil =>
        rcases List.infix_cons_iff.1 h with hpre | h
        · cases p with
          | nil => exact .inr (List.nil_infix ..)
          | cons d p =>
              obtain ⟨rfl, -⟩ := List.cons_prefix_cons.1 hpre
              exact absurd List.mem_cons_self hc
        · exact .inr h
    | cons d s ih =>
        rcases List.infix_cons_iff.1 h with hpre | h
        · rcases isPrefix_append_cases (s := d :: s) hpre with hpre | ⟨q, rfl, hq⟩
          · exact .inl hpre.isInfix
          · -- The word would have to go on with the character.
            cases q with
            | nil => exact .inl (by simp)
            | cons e q =>
                obtain ⟨rfl, -⟩ := List.cons_prefix_cons.1 hq
                exact absurd (List.mem_append_right _ List.mem_cons_self) hc
        · exact (ih h).imp_left fun h => h.trans (List.suffix_cons d s).isInfix
  · rintro (h | h)
    · exact h.trans (List.prefix_append s _).isInfix
    · exact h.trans ((List.suffix_cons c t).trans (List.suffix_append s _)).isInfix

theorem isInfix_intercalate_iff {p : List Char} {c : Char} (hc : c ∉ p) {ts : List (List Char)}
    (hne : ts ≠ []) : p <:+: List.intercalate [c] ts ↔ ∃ t ∈ ts, p <:+: t := by
  induction ts with
  | nil => exact absurd rfl hne
  | cons t ts ih =>
      cases ts with
      | nil => simp
      | cons u ts =>
          rw [List.intercalate_cons_cons, List.append_assoc, List.singleton_append,
            isInfix_append_cons_iff hc, ih (by simp), List.exists_mem_cons_iff (a := t)]

/-- The first run of a text is determined by the text. -/
theorem run_eq_of_append_eq {p : Char → Bool} {s t rest rest' : List Char}
    (hs : ∀ c ∈ s, p c = true) (ht : ∀ c ∈ t, p c = true) (hrest : Stops p rest)
    (hrest' : Stops p rest') (h : s ++ rest = t ++ rest') : s = t := by
  rw [← takeWhile_append_of_stops hs hrest, h, takeWhile_append_of_stops ht hrest']

/-! ## Keywords -/

/-- A keyword is found however it is spelled. -/
theorem afterKeyword?_map (w rest : List Char) :
    afterKeyword? (w.map foldLetter) (w ++ rest) = some rest := by
  induction w with
  | nil => rfl
  | cons c w ih => rw [List.map_cons, List.cons_append, afterKeyword?, if_pos rfl, ih]

/-- A keyword that is spelled in small letters is found. -/
theorem afterKeyword?_append {ks : List Char} (h : ∀ c ∈ ks, foldLetter c = c) (rest : List Char) :
    afterKeyword? ks (ks ++ rest) = some rest := by
  have hfound := afterKeyword?_map ks rest
  rwa [List.map_congr_left h, List.map_id'] at hfound

theorem afterKeyword?_eq_some {ks s rest : List Char} (h : afterKeyword? ks s = some rest) :
    ∃ w, s = w ++ rest ∧ w.map foldLetter = ks := by
  induction ks generalizing s with
  | nil =>
      rw [afterKeyword?, Option.some.injEq] at h
      exact ⟨[], h, rfl⟩
  | cons k ks ih =>
      cases s with
      | nil => exact absurd h (by simp [afterKeyword?])
      | cons c s =>
          rw [afterKeyword?] at h
          split at h
          · next hk =>
            obtain ⟨w, hs, hw⟩ := ih h
            exact ⟨c :: w, by rw [hs, List.cons_append], by rw [List.map_cons, hk, hw]⟩
          · exact absurd h (by simp)

theorem foldLetter_mem_of_afterKeyword? {ks s : List Char} (h : afterKeyword? ks s = some [])
    {c : Char} (hc : c ∈ s) : foldLetter c ∈ ks := by
  obtain ⟨w, rfl, rfl⟩ := afterKeyword?_eq_some h
  rw [List.append_nil] at hc
  exact List.mem_map_of_mem hc

/-! ## Rewriting from the left -/


@[simp] theorem rewrite_nil (rule : Rule) : rewrite rule [] = [] := rfl

theorem rewrite_cons_of_none {rule : Rule} {c : Char} {s : List Char} (h : rule (c :: s) = none) :
    rewrite rule (c :: s) = c :: rewrite rule s := by
  rw [rewrite, rewriteAfter, h]
  rfl

/-- A stretch at none of whose characters the rule applies, whatever follows, is copied. -/
theorem rewrite_append_of_none {rule : Rule} {s : List Char}
    (h : ∀ c ∈ s, ∀ t, rule (c :: t) = none) (rest : List Char) :
    rewrite rule (s ++ rest) = s ++ rewrite rule rest := by
  induction s with
  | nil => rfl
  | cons c s ih =>
      rw [List.cons_append, rewrite_cons_of_none (h c (by simp) _),
        ih fun d hd => h d (by simp [hd]), List.cons_append]

theorem rewrite_of_none {rule : Rule} {s : List Char} (h : ∀ c ∈ s, ∀ t, rule (c :: t) = none) :
    rewrite rule s = s := by
  have hs := rewrite_append_of_none h []
  rwa [List.append_nil, rewrite_nil, List.append_nil] at hs

theorem rewriteAfter_append (rule : Rule) (s rest : List Char) :
    rewriteAfter rule s.length (s ++ rest) = rewrite rule rest := by
  induction s with
  | nil => rfl
  | cons c s ih => exact ih

/-- A stretch that the rule names at the front is replaced. -/
theorem rewrite_append_of_some {rule : Rule} {c : Char} {s n rest : List Char}
    (h : rule (c :: (s ++ rest)) = some (s.length, n)) :
    rewrite rule (c :: (s ++ rest)) = n ++ rewrite rule rest := by
  rw [rewrite, rewriteAfter, h]
  exact congrArg (n ++ ·) (rewriteAfter_append rule s rest)

end DiagramBridge.Text
