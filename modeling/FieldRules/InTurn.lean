namespace FieldRules

/-- Acts on one input after the other, and puts together all that is told. -/
def inTurn {σ ι ε : Type} (act : σ → ι → σ × List ε) (s : σ) : List ι → σ × List ε
  | [] => (s, [])
  | input :: rest =>
    let (s, first) := act s input
    let (s, others) := inTurn act s rest
    (s, first ++ others)

section InTurn

variable {σ ι ε : Type} (act : σ → ι → σ × List ε) (s : σ)

@[simp]
theorem inTurn_nil : inTurn act s [] = (s, []) := rfl

theorem inTurn_cons (input : ι) (rest : List ι) :
    inTurn act s (input :: rest) = ((inTurn act (act s input).1 rest).1,
      (act s input).2 ++ (inTurn act (act s input).1 rest).2) := rfl

theorem inTurn_append (first others : List ι) :
    inTurn act s (first ++ others) = ((inTurn act (inTurn act s first).1 others).1,
      (inTurn act s first).2 ++ (inTurn act (inTurn act s first).1 others).2) := by
  induction first generalizing s with
  | nil => rfl
  | cons input rest ih => rw [List.cons_append, inTurn_cons, ih, inTurn_cons, List.append_assoc]

theorem inTurn_snoc (inputs : List ι) (input : ι) :
    inTurn act s (inputs ++ [input]) = ((act (inTurn act s inputs).1 input).1,
      (inTurn act s inputs).2 ++ (act (inTurn act s inputs).1 input).2) := by
  rw [inTurn_append, inTurn_cons, inTurn_nil, List.append_nil]

variable {act s}

/-- What holds of every single act, of none, and of two in turn holds of all of them. -/
theorem inTurn_rel {R : σ → σ → List ε → Prop} (none : ∀ s, R s s [])
    (more : ∀ {s s' s'' events others}, R s s' events → R s' s'' others →
      R s s'' (events ++ others)) {inputs : List ι}
    (single : ∀ s, ∀ input ∈ inputs, R s (act s input).1 (act s input).2) :
    R s (inTurn act s inputs).1 (inTurn act s inputs).2 := by
  induction inputs generalizing s with
  | nil => exact none s
  | cons input rest ih =>
    have hfirst := single s input List.mem_cons_self
    exact more hfirst (ih fun s i hm => single s i (List.mem_cons_of_mem _ hm))

/-- What no act changes is the same in the end. -/
theorem inTurn_unchanged {α : Type} {f : σ → α} {inputs : List ι}
    (single : ∀ s, ∀ input ∈ inputs, f (act s input).1 = f s) :
    f (inTurn act s inputs).1 = f s :=
  inTurn_rel (R := fun s s' _ => f s' = f s) (fun _ => rfl) (fun h h' => h'.trans h) single

/-- What is told of all is told of one of them. -/
theorem forall_mem_inTurn {P : ε → Prop} {inputs : List ι}
    (single : ∀ s, ∀ input ∈ inputs, ∀ event ∈ (act s input).2, P event) :
    ∀ event ∈ (inTurn act s inputs).2, P event := by
  refine inTurn_rel (R := fun _ _ events => ∀ event ∈ events, P event) (by simp) ?_ single
  intro _ _ _ events others h h' event hm
  rcases List.mem_append.1 hm with hm | hm
  · exact h event hm
  · exact h' event hm

/-- A change of the state that every act commutes with. -/
theorem inTurn_comm {g : σ → σ} {inputs : List ι}
    (single : ∀ s, ∀ input ∈ inputs, act (g s) input = (g (act s input).1, (act s input).2)) :
    inTurn act (g s) inputs = (g (inTurn act s inputs).1, (inTurn act s inputs).2) := by
  induction inputs generalizing s with
  | nil => rfl
  | cons input rest ih =>
    rw [inTurn_cons, single s input List.mem_cons_self, inTurn_cons,
      ih fun s i hm => single s i (List.mem_cons_of_mem _ hm)]

end InTurn

end FieldRules
