import CrossEntropy.Proofs.Location

/-!
# Access by index

Programs that reach into tensors by index stop dead at an index out of bounds. Here such a program
is a computation in `Option`, where `none` is the stop, or in `Run`, where it may also be refused.

* `Run`, `settled`, `access`: computations, those that never stop, and single accesses;
* `read`, `write`: an entry by its index;
* `loop`: nested loops over the indices of a shape;
* **`loop_eq`**: a loop whose body never stops is a fold;
* `foldl_set`, `loop_prod`: folds that set every place once, and loops that keep two things;
* `ofLanes`, `read_ofLanes`, `write_ofLanes`: tensors by their lanes along the class axis;
* **`loop_lanes`**: a loop that updates the lane of every location.
-/

namespace CrossEntropy

/-- Whether an index is one of a shape can be tested. -/
instance Shape.decidableContains : (s : Shape) → (index : List Nat) → Decidable (Contains s index)
  | [], [] => .isTrue trivial
  | [], _ :: _ => .isFalse id
  | _ :: _, [] => .isFalse id
  | k :: s, i :: index =>
    have := decidableContains s index
    inferInstanceAs (Decidable (i < k ∧ Contains s index))

namespace Indexed

variable {ε α β γ : Type}

/-! ## Computations that may stop -/

/-- A computation that stops at an access out of bounds, and otherwise has a result or an error. -/
abbrev Run (ε α : Type) := ExceptT ε Option α

/-- The computation that does not stop, and has the given outcome. -/
def settled (x : Except ε α) : Run ε α := some x

/-- The computation that stops if there is nothing to access. -/
def access (x : Option α) : Run ε α := x.map .ok

@[simp] theorem access_some (a : α) : (access (some a) : Run ε α) = settled (.ok a) := rfl

@[simp] theorem settled_ok_bind (a : α) (f : α → Run ε β) : settled (.ok a) >>= f = f a := rfl

/-- A computation does not stop if no part of it does that is reached. -/
theorem settled_bind {x : Except ε α} {f : α → Run ε β} {g : α → Except ε β}
    (h : ∀ a, x = .ok a → f a = settled (g a)) : settled x >>= f = settled (x >>= g) := by
  cases x with
  | error e => rfl
  | ok a => exact h a rfl

theorem settled_bind_assoc (x : Except ε α) (f : α → Except ε β) (k : β → Run ε γ) :
    settled (x >>= f) >>= k = settled x >>= fun a => settled (f a) >>= k := by
  cases x with
  | error e => rfl
  | ok a => rfl

/-! ## Entries by index -/

/-- The entry at an index. -/
def read (x : Tensor α) (index : List Nat) : Option α :=
  if h : x.shape.Contains index then some (x.entries.get ⟨x.shape.ravel index, Shape.ravel_lt h⟩)
  else none

/-- The tensor with another entry at an index. -/
def write (x : Tensor α) (index : List Nat) (a : α) : Option (Tensor α) :=
  if h : x.shape.Contains index then some (x.replace ⟨x.shape.ravel index, Shape.ravel_lt h⟩ a)
  else none

theorem read_unravel {s : Shape} (x : Vector α (Shape.size s)) (k : Fin (Shape.size s)) :
    read ⟨s, x⟩ (s.unravel k) = some (x.get k) := by
  unfold read
  rw [dif_pos (Shape.contains_unravel k.isLt)]
  simp only [Shape.ravel_unravel k.isLt]

theorem read_index (x : Tensor α) (k : Fin x.size) :
    read x (x.index k) = some (x.entries.get k) :=
  read_unravel x.entries k

theorem write_index (x : Tensor α) (k : Fin x.size) (a : α) :
    write x (x.index k) a = some (x.replace k a) := by
  unfold write Tensor.index
  rw [dif_pos (Shape.contains_unravel k.isLt)]
  simp only [Shape.ravel_unravel k.isLt]

theorem write_replace (x : Tensor α) (k : Fin x.size) (a b : α) :
    write (x.replace k a) (x.index k) b = some (x.replace k b) := by
  refine (write_index (x.replace k a) k b).trans (congrArg some ?_)
  exact congrArg (Tensor.mk x.shape) (Vector.set_set ..)

theorem replace_get (x : Tensor α) (k : Fin x.size) : x.replace k (x.entries.get k) = x :=
  congrArg (Tensor.mk x.shape) (Vector.set_getElem_self k.isLt)

/-! ## Loops -/

/-- Nested loops, one for each dimension of a shape, the outermost first. -/
def loop : Shape → (List Nat → β → Option β) → β → Option β
  | [], body, b => body [] b
  | k :: s, body, b => Fin.foldlM k (fun b i => loop s (fun index => body (i :: index)) b) b

theorem foldlM_eq {n : Nat} {f : β → Fin n → Option β} {g : γ → Fin n → γ} (embed : γ → β)
    (h : ∀ c i, f (embed c) i = some (embed (g c i))) (c : γ) :
    Fin.foldlM n f (embed c) = some (embed (Fin.foldl n g c)) := by
  induction n with
  | zero => rw [Fin.foldlM_zero, Fin.foldl_zero]; rfl
  | succ n ih =>
    have hbefore : Fin.foldlM n (fun b i => f b i.castSucc) (embed c) =
        some (embed (Fin.foldl n (fun c i => g c i.castSucc) c)) := ih fun c i => h c i.castSucc
    rw [Fin.foldlM_succ_last, Fin.foldl_succ_last]
    show (Fin.foldlM n (fun b i => f b i.castSucc) (embed c) >>= fun b => f b (Fin.last n)) = _
    rw [hbefore]
    exact h _ _

theorem unravel_row {k i : Nat} {s : Shape} (j : Fin (Shape.size s)) :
    Shape.unravel (k :: s) (i * Shape.size s + j) = i :: s.unravel j := by
  obtain ⟨hdiv, hmod⟩ := Split.quotient_remainder (q := i) j.isLt
  rw [Shape.unravel, hdiv, hmod]

/-- **A loop whose body never stops is a fold** over the numbers of its indices. What the loop keeps
may be an image of what the fold keeps. -/
theorem loop_eq {s : Shape} {body : List Nat → β → Option β} {g : γ → Fin (Shape.size s) → γ}
    (embed : γ → β) (h : ∀ c (k : Fin (Shape.size s)),
      body (s.unravel k) (embed c) = some (embed (g c k))) (c : γ) :
    loop s body (embed c) = some (embed (Fin.foldl (Shape.size s) g c)) := by
  induction s generalizing body c with
  | nil =>
    have hone (g : γ → Fin 1 → γ) : Fin.foldl 1 g c = g c (Fin.last 0) := by
      rw [Fin.foldl_succ_last, Fin.foldl_zero]
    exact (h c (Fin.last 0)).trans (congrArg (fun c => some (embed c)) (hone g).symm)
  | cons k s ih =>
    refine Eq.trans ?_ (congrArg (fun c => some (embed c)) (foldl_mul g c).symm)
    apply foldlM_eq
    intro c i
    apply ih
    intro c j
    show body (i :: Shape.unravel s j) (embed c) = _
    rw [← unravel_row (k := k) j]
    exact h c ⟨i * Shape.size s + j, Reference.row_lt i.isLt j.isLt⟩

/-! ## Folds that set places -/

theorem get_set {n : Nat} (x : Vector α n) (i j : Fin n) (a : α) :
    (x.set i a).get j = if i = j then a else x.get j := by
  by_cases hij : i = j
  · subst hij
    rw [if_pos rfl]
    exact Vector.getElem_set_self i.isLt
  · rw [if_neg hij]
    exact Vector.getElem_set_ne i.isLt j.isLt (Fin.val_ne_of_ne hij)

theorem get_foldl_set {n m : Nat} (hm : m ≤ n) (f : Fin n → α → α) (x : Vector α n) (j : Fin n) :
    (Fin.foldl m (fun x i => x.set (i.castLE hm) (f (i.castLE hm) (x.get (i.castLE hm)))) x).get j =
      if j.val < m then f j (x.get j) else x.get j := by
  induction m generalizing j with
  | zero => rw [Fin.foldl_zero, if_neg (Nat.not_lt_zero _)]
  | succ m ih =>
    rw [Fin.foldl_succ_last, get_set]
    by_cases hj : (Fin.last m).castLE hm = j
    · subst hj
      have hbefore := (ih (Nat.le_of_succ_le hm) ((Fin.last m).castLE hm)).trans
        (if_neg (show ¬ m < m by omega))
      rw [if_pos rfl]
      exact (congrArg (f _) hbefore).trans (if_pos (show m < m + 1 by omega)).symm
    · have hbelow : j.val < m + 1 ↔ j.val < m := by
        have : m ≠ j.val := fun h => hj (Fin.ext h)
        omega
      simp only [if_neg hj, hbelow]
      exact ih (Nat.le_of_succ_le hm) j

/-- **A fold that sets every place once**, from what is at the place, sets all of them. -/
theorem foldl_set {n : Nat} (f : Fin n → α → α) (x : Vector α n) :
    Fin.foldl n (fun x i => x.set i (f i (x.get i))) x = Vector.ofFn fun i => f i (x.get i) := by
  apply ext_get
  intro j
  rw [Vector.get_ofFn]
  exact (get_foldl_set le_rfl f x j).trans (if_pos j.isLt)

/-- A fold over pairs whose parts do not depend on each other is a pair of folds. -/
theorem foldl_prod {n : Nat} (f : β → Fin n → β) (g : γ → Fin n → γ) (b : β) (c : γ) :
    Fin.foldl n (fun s i => (f s.1 i, g s.2 i)) (b, c) = (Fin.foldl n f b, Fin.foldl n g c) := by
  induction n with
  | zero => simp only [Fin.foldl_zero]
  | succ n ih =>
    rw [Fin.foldl_succ_last, Fin.foldl_succ_last, Fin.foldl_succ_last]
    rw [ih (fun b i => f b i.castSucc) fun c i => g c i.castSucc]

theorem loop_prod {δ : Type} {s : Shape} {body : List Nat → δ → Option δ}
    {f : β → Fin (Shape.size s) → β} {g : γ → Fin (Shape.size s) → γ} (embed : β → γ → δ)
    (h : ∀ b c (k : Fin (Shape.size s)),
      body (s.unravel k) (embed b c) = some (embed (f b k) (g c k))) (b : β) (c : γ) :
    loop s body (embed b c) =
      some (embed (Fin.foldl (Shape.size s) f b) (Fin.foldl (Shape.size s) g c)) := by
  have hfold := foldl_prod f g b c
  refine (loop_eq (g := fun t k => (f t.1 k, g t.2 k)) (fun t => embed t.1 t.2) ?_ (b, c)).trans ?_
  · intro t k
    exact h t.1 t.2 k
  · exact congrArg (fun t => some (embed t.1 t.2)) hfold

theorem set_get {n : Nat} (x : Vector α n) (i : Fin n) : x.set i (x.get i) = x :=
  Vector.set_getElem_self i.isLt

theorem join_set {size : Nat} (s : Split size) (b : Vector (Vector α s.classes) s.count)
    (l : Fin s.count) (c : Fin s.classes) (a : α) :
    (s.join b).set (s.entry l c) a = s.join (b.set l ((b.get l).set c a)) := by
  apply s.ext_entry
  intro l' c'
  rw [get_set, s.get_join_entry, s.get_join_entry, get_set]
  by_cases hl : l = l'
  · subst hl
    have hclass : s.entry l c = s.entry l c' ↔ c = c' := by
      constructor
      · intro hentry
        rw [← s.classOf_entry l c, hentry, s.classOf_entry]
      · exact congrArg (s.entry l)
    simp only [if_true, get_set, hclass]
  · rw [if_neg hl, if_neg]
    intro hentry
    apply hl
    rw [← s.laneOf_entry l c, hentry, s.laneOf_entry]

theorem map_join {size : Nat} (s : Split size) (b : Vector (Vector α s.classes) s.count)
    (f : α → β) : (s.join b).map f = s.join (b.map (Vector.map f)) := by
  apply ext_get
  intro k
  rw [Vector.get_map, s.get_join, s.get_join, Vector.get_map, Vector.get_map]

theorem join_replicate {size : Nat} (s : Split size) (a : α) :
    s.join (Vector.replicate s.count (Vector.replicate s.classes a)) = Vector.replicate size a := by
  apply ext_get
  intro k
  rw [s.get_join]
  simp [Vector.get]

/-! ## Lanes along the class axis -/

/-- The index of a class at a location. -/
def atClass (location : List Nat) (c : Nat) : List Nat := location.insertIdx 1 c

section Lanes

variable {n d : Nat} {rest : Shape}

variable (n rest) in
/-- The tensor of given lanes, one for each location. -/
def ofLanes (b : Vector (Vector α d) (Shape.size (n :: rest))) : Tensor α :=
  ⟨n :: d :: rest, (Split.classAxis n d rest).join b⟩

/-- The lanes of a tensor, one for each location. -/
def lanesOf (x : Vector α (Shape.size (n :: d :: rest))) :
    Vector (Vector α d) (Shape.size (n :: rest)) :=
  (Split.classAxis n d rest).lanes x

theorem ofLanes_lanesOf (x : Vector α (Shape.size (n :: d :: rest))) :
    ofLanes n rest (lanesOf x) = ⟨n :: d :: rest, x⟩ :=
  congrArg (Tensor.mk (n :: d :: rest)) ((Split.classAxis n d rest).join_lanes x)

variable (b : Vector (Vector α d) (Shape.size (n :: rest))) (l : Fin (Shape.size (n :: rest)))
  (c : Fin d)

theorem get_ofLanes :
    (ofLanes n rest b).entries.get ((Split.classAxis n d rest).entry l c) = (b.get l).get c :=
  (Split.classAxis n d rest).get_join_entry b l c

theorem map_ofLanes (f : α → β) :
    (ofLanes n rest b).map f = ofLanes n rest (b.map (Vector.map f)) :=
  congrArg (Tensor.mk (n :: d :: rest)) (map_join (Split.classAxis n d rest) b f)

theorem atClass_unravel :
    atClass (Shape.unravel (n :: rest) l) c =
      (ofLanes n rest b).index ((Split.classAxis n d rest).entry l c) :=
  (unravel_entry l c).symm

theorem read_ofLanes :
    read (ofLanes n rest b) (atClass (Shape.unravel (n :: rest) l) c) = some ((b.get l).get c) := by
  rw [atClass_unravel b]
  exact (read_index (ofLanes n rest b) _).trans (congrArg some (get_ofLanes b l c))

theorem write_ofLanes (a : α) :
    write (ofLanes n rest b) (atClass (Shape.unravel (n :: rest) l) c) a =
      some (ofLanes n rest (b.set l ((b.get l).set c a))) := by
  rw [atClass_unravel b]
  refine (write_index (ofLanes n rest b) _ a).trans (congrArg some ?_)
  exact congrArg (Tensor.mk (n :: d :: rest)) (join_set (Split.classAxis n d rest) b l c a)

/-! ## Loops over lanes -/

variable {b}

/-- A loop over the locations that updates the lane of each. -/
theorem loop_lanes {body : List Nat → Tensor α → Option (Tensor α)}
    {f : Fin (Shape.size (n :: rest)) → Vector α d → Vector α d}
    (h : ∀ (b : Vector (Vector α d) (Shape.size (n :: rest))) (l : Fin (Shape.size (n :: rest))),
      body (Shape.unravel (n :: rest) l) (ofLanes n rest b) =
        some (ofLanes n rest (b.set l (f l (b.get l))))) :
    loop (n :: rest) body (ofLanes n rest b) =
      some (ofLanes n rest (Vector.ofFn fun l => f l (b.get l))) := by
  rw [← foldl_set]
  exact loop_eq (ofLanes n rest) h b

/-- A loop over the classes at a location that updates the entry of each. -/
theorem foldlM_lane {body : Tensor α → Fin d → Option (Tensor α)} {f : Fin d → α → α}
    {l : Fin (Shape.size (n :: rest))}
    (h : ∀ (b : Vector (Vector α d) (Shape.size (n :: rest))) c,
      body (ofLanes n rest b) c =
        some (ofLanes n rest (b.set l ((b.get l).set c (f c ((b.get l).get c)))))) :
    Fin.foldlM d body (ofLanes n rest b) =
      some (ofLanes n rest (b.set l (Vector.ofFn fun c => f c ((b.get l).get c)))) := by
  rw [← foldl_set]
  have hloop := foldlM_eq (f := body) (g := fun lane c => lane.set c (f c (lane.get c)))
    (fun lane => ofLanes n rest (b.set l lane)) ?_ (b.get l)
  · rwa [set_get] at hloop
  · intro lane c
    rw [h, get_set, if_pos rfl, Vector.set_set]

theorem foldlM_lane_prod {body : Tensor α × γ → Fin d → Option (Tensor α × γ)}
    {f : Fin d → α → α} {g : γ → Fin d → γ} {l : Fin (Shape.size (n :: rest))}
    (h : ∀ (b : Vector (Vector α d) (Shape.size (n :: rest))) s c,
      body (ofLanes n rest b, s) c =
        some (ofLanes n rest (b.set l ((b.get l).set c (f c ((b.get l).get c)))), g s c)) (s : γ) :
    Fin.foldlM d body (ofLanes n rest b, s) =
      some (ofLanes n rest (b.set l (Vector.ofFn fun c => f c ((b.get l).get c))),
        Fin.foldl d g s) := by
  have hfold := foldl_prod (fun (lane : Vector α d) c => lane.set c (f c (lane.get c))) g (b.get l) s
  rw [foldl_set] at hfold
  have hloop := foldlM_eq (f := body) (g := fun t c => (t.1.set c (f c (t.1.get c)), g t.2 c))
    (fun t : Vector α d × γ => (ofLanes n rest (b.set l t.1), t.2)) ?_ (b.get l, s)
  · rwa [hfold, set_get] at hloop
  · rintro ⟨lane, s⟩ c
    rw [h, get_set, if_pos rfl, Vector.set_set]

end Lanes

end Indexed

end CrossEntropy
