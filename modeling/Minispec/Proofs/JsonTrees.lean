import Minispec.Proofs.FloatText
import Minispec.Proofs.JsonText
import Minispec.Proofs.Subtrees
import Minispec.Tree.Json

/-!
Reading the JSON text of a tree gives the tree back exactly if the text is not nested too deep and
every floating point number in the tree survives being written and read. A text that is nested
too deep is refused whatever else is in it. Which numbers survive is not said here: the reader of
JSON rounds twice.
-/

namespace Minispec

/-! ### Numerals -/

namespace Decimal

theorem head_toDigits_ne_zero {n : Nat} (h : n ≠ 0) : (Nat.toDigits 10 n).head? ≠ some '0' := by
  induction n using Nat.strongRecOn with
  | ind n ih =>
      rw [Nat.toDigits_eq_if (by decide)]
      split
      · next hlt =>
          have hall : ∀ d < 10, d ≠ 0 → [Nat.digitChar d].head? ≠ some '0' := by decide
          exact hall n hlt h
      · next hge =>
          rw [List.head?_append_of_ne_nil _ Nat.toDigits_ne_nil]
          exact ih (n / 10) (by omega) (by omega)

/-- No zero stands in front of other digits. -/
def NoLeadingZero (digits : List Char) : Prop :=
  digits.head? = some '0' → digits.length ≤ 1

theorem noLeadingZero_toDigits (n : Nat) : NoLeadingZero (Nat.toDigits 10 n) := by
  intro hzero
  by_cases h : n = 0
  · subst h
    decide
  · exact absurd hzero (head_toDigits_ne_zero h)

namespace Layout

theorem head_significant {coefficient : Nat} (h : coefficient ≠ 0) :
    (significant coefficient).head? ≠ some '0' := by
  obtain ⟨k, hk⟩ := exists_toDigits_eq coefficient
  have hhead := head_toDigits_ne_zero h
  rwa [hk, List.head?_append_of_ne_nil _ (isDigits_significant h).1] at hhead

theorem placePoint_noLeadingZero (layout : Layout) (negative : Bool) {digits : List Char}
    {point : Int} (h : digits.head? ≠ some '0' ∨ point ≤ 1) (hd : digits ≠ []) :
    NoLeadingZero (layout.placePoint negative digits point).whole := by
  intro hzero
  simp only [placePoint] at hzero ⊢
  by_cases hpoint : point ≤ 1
  · rw [List.length_take]
    omega
  · have hlead : (1 - point).toNat = 0 := by omega
    rw [hlead, zeros, List.replicate_zero, List.nil_append, List.head?_take,
      if_neg (by omega), List.head?_append_of_ne_nil _ hd] at hzero
    exact absurd hzero (h.resolve_right hpoint)

theorem withExponent_noLeadingZero (layout : Layout) (negative : Bool) (digits : List Char)
    (point : Int) : NoLeadingZero (layout.withExponent negative digits point).whole :=
  fun _ => List.length_take_le 1 digits

theorem numeral_noLeadingZero (layout : Layout) {x : Binary64} (hx : x.isFinite = true) :
    NoLeadingZero (layout.numeral x).whole := by
  have hfinite : x.rank < Binary64.infinityRank := of_decide_eq_true hx
  simp only [numeral]
  split
  · exact placePoint_noLeadingZero layout _ (.inr (by decide)) (by decide)
  · next hzero =>
      have hrank : x.rank ≠ 0 := fun h => hzero (beq_iff_eq.2 h)
      have hc := shortest_coefficient_ne_zero layout.tie hrank hfinite
      split
      · exact placePoint_noLeadingZero layout _ (.inl (head_significant hc))
          (isDigits_significant hc).1
      · exact withExponent_noLeadingZero layout _ _ _

end Layout
end Decimal

namespace Json

theorem readable_num {n : Decimal.Numeral} (hproper : n.Proper)
    (hzero : Decimal.NoLeadingZero n.whole) : Readable (.num n) := by
  refine .num hproper (if_neg ?_)
  simp only [Bool.and_eq_true, beq_iff_eq, decide_eq_true_eq]
  intro h
  exact absurd (hzero h.1) (Nat.not_le.2 h.2)

theorem int64_int (n : Int64) : (Json.int n.toInt).int64? = some n := by
  have hwhole : (Decimal.Numeral.ofInt n.toInt).isWhole = true := rfl
  have hsign : (Decimal.Numeral.ofInt n.toInt).negative = decide (n.toInt < 0) := rfl
  rw [Json.int, int64?, if_pos, Decimal.Numeral.toInt64_ofInt]
  -- Only zero could be minus zero, and its sign is not negative.
  simp only [hwhole, hsign, Decimal.Numeral.toInt_ofInt, Bool.true_and, Bool.not_eq_true',
    Bool.and_eq_false_iff, decide_eq_false_iff_not, beq_eq_false_iff_ne]
  omega

theorem readable_int (n : Int) : (Json.int n).Readable :=
  readable_num (Decimal.Numeral.proper_ofInt n) (Decimal.noLeadingZero_toDigits n.natAbs)

mutual

/-- How deep arrays and objects are nested. -/
def depth : Json → Nat
  | .arr items => 1 + itemsDepth items
  | .obj members => 1 + membersDepth members
  | _ => 0

def itemsDepth : List Json → Nat
  | [] => 0
  | v :: vs => max v.depth (itemsDepth vs)

def membersDepth : List (Option String × Json) → Nat
  | [] => 0
  | (_, v) :: rest => max v.depth (membersDepth rest)

end

end Json

theorem Literal.depth_floatToJson (x : Binary64) : (floatToJson x).depth = 0 := by
  rw [floatToJson]
  split <;> rfl

/-! ### Results that are expected -/

/-- The computation gives the expected result exactly if there is room for it and it survives, and
nothing if there is no room. -/
structure Recovers {α : Type} (x : Option α) (a : α) (fits survives : Prop) : Prop where
  some_iff : x = some a ↔ fits ∧ survives
  eq_none : ¬ fits → x = none

namespace Recovers
variable {α β γ δ : Type} {x : Option α} {y : Option β} {z : Option γ} {a : α} {b : β} {c : γ}
  {fits fits' fits'' survives survives' survives'' : Prop}

theorem congr (h : Recovers x a fits survives) (hfits : fits' ↔ fits)
    (hsurvives : survives' ↔ survives) : Recovers x a fits' survives' := by
  rwa [hfits, hsurvives]

theorem of_some (a : α) : Recovers (some a) a True True :=
  ⟨⟨fun _ => ⟨trivial, trivial⟩, fun _ => rfl⟩, fun h => absurd trivial h⟩

theorem of_none (a : α) (hfits : ¬ fits) : Recovers none a fits survives :=
  ⟨⟨nofun, fun h => absurd h.1 hfits⟩, fun _ => rfl⟩

theorem map {f : α → β} (hf : Function.Injective f) (h : Recovers x a fits survives) :
    Recovers (x.map f) (f a) fits survives := by
  refine ⟨?_, fun hfits => by rw [h.eq_none hfits, Option.map_none]⟩
  rw [← h.some_iff, Option.map_eq_some_iff]
  constructor
  · intro hx
    obtain ⟨a', ha', heq⟩ := hx
    rwa [← hf heq]
  · intro hx
    exact ⟨a, hx, rfl⟩

theorem map₂ {f : α → β → γ} (hf : ∀ {a b a' b'}, f a b = f a' b' → a = a' ∧ b = b')
    (hx : Recovers x a fits survives) (hy : Recovers y b fits' survives') :
    Recovers (do return f (← x) (← y)) (f a b) (fits ∧ fits') (survives ∧ survives') := by
  constructor
  · rw [and_and_and_comm, ← hx.some_iff, ← hy.some_iff]
    simp only [Option.bind_eq_bind, Option.bind_eq_some_iff, Option.pure_def, Option.some.injEq]
    constructor
    · intro h
      obtain ⟨a', ha', b', hb', heq⟩ := h
      obtain ⟨rfl, rfl⟩ := hf heq
      exact ⟨ha', hb'⟩
    · intro h
      exact ⟨a, h.1, b, h.2, rfl⟩
  · intro hnot
    by_cases hfits : fits
    · rw [hy.eq_none fun hfits' => hnot ⟨hfits, hfits'⟩]
      cases x <;> rfl
    · rw [hx.eq_none hfits]
      rfl

theorem map₃ {f : α → β → γ → δ}
    (hf : ∀ {a b c a' b' c'}, f a b c = f a' b' c' → a = a' ∧ b = b' ∧ c = c')
    (hx : Recovers x a fits survives) (hy : Recovers y b fits' survives')
    (hz : Recovers z c fits'' survives'') :
    Recovers (do return f (← x) (← y) (← z)) (f a b c) ((fits ∧ fits') ∧ fits'')
      ((survives ∧ survives') ∧ survives'') := by
  have hpair := map₂ (f := Prod.mk) (fun h => Prod.mk.inj h) hx hy
  have hall := map₂ (f := fun p c => f p.1 p.2 c)
    (fun h => ⟨Prod.ext (hf h).1 (hf h).2.1, (hf h).2.2⟩) hpair hz
  simpa only [bind_assoc, pure_bind] using hall

end Recovers

/-! ### Floating point numbers in a tree -/

/-- The number is read from its own JSON form. -/
def Binary64.SurvivesJson (x : Binary64) : Prop :=
  (Literal.floatToJson x).float? = some x

instance : DecidablePred Binary64.SurvivesJson := fun x =>
  inferInstanceAs (Decidable ((Literal.floatToJson x).float? = some x))

namespace Tree

/-- A floating point number that stands somewhere in a tree. -/
inductive HasFloat : Tree → Binary64 → Prop
  | here (x : Binary64) : HasFloat (.lit (.float x)) x
  | inside {t c : Tree} {x : Binary64} (hc : c ∈ t.children) (hx : HasFloat c x) : HasFloat t x

/-- All floating point numbers in the tree are read from their JSON forms. -/
def FloatsSurvive (t : Tree) : Prop :=
  ∀ x, t.HasFloat x → x.SurvivesJson

def isFloat : Tree → Bool
  | .lit (.float _) => true
  | _ => false

theorem floatsSurvive_iff_children {t : Tree} (h : t.isFloat = false) :
    t.FloatsSurvive ↔ ∀ c ∈ t.children, c.FloatsSurvive := by
  constructor
  · intro ht c hc x hx
    exact ht x (.inside hc hx)
  · intro hall x hx
    cases hx with
    | here => cases h
    | inside hc hx => exact hall _ hc x hx

theorem floatsSurvive_float_iff {x : Binary64} :
    (lit (.float x)).FloatsSurvive ↔ x.SurvivesJson := by
  constructor
  · intro h
    exact h x (.here x)
  · intro h y hy
    cases hy with
    | here => exact h
    | inside hc _ => cases hc

/-! ### Parts of a tree -/

theorem toJson_ne_null (t : Tree) : t.toJson ≠ .null := by
  cases t <;> nofun

/-- The tree is read from its JSON form exactly if the room is enough for it and its numbers
survive. -/
def RecoversIn (room : Nat) (t : Tree) : Prop :=
  Recovers (ofJson? room t.toJson) t (t.toJson.depth ≤ room) t.FloatsSurvive

variable {room : Nat}

theorem recovers_items {ts : List Tree} (h : ∀ t ∈ ts, t.RecoversIn room) :
    Recovers ((listToJson ts).mapM (ofJson? room)) ts (Json.itemsDepth (listToJson ts) ≤ room)
      (∀ t ∈ ts, t.FloatsSurvive) := by
  induction ts with
  | nil => exact (Recovers.of_some []).congr (by simp [listToJson, Json.itemsDepth]) (by simp)
  | cons t ts ih =>
      have hrest := ih fun u hu => h u (List.mem_cons_of_mem t hu)
      rw [listToJson, List.mapM_cons]
      refine (Recovers.map₂ (fun h => List.cons.inj h) (h t List.mem_cons_self) hrest).congr ?_ ?_
      · rw [Json.itemsDepth, Nat.max_le]
      · exact List.forall_mem_cons

theorem recovers_array (room : Nat) (ts : List Tree) (h : ∀ t ∈ ts, ∀ room, t.RecoversIn room) :
    Recovers (ofJson?.listOfJson? room (.arr (listToJson ts))) ts
      ((Json.arr (listToJson ts)).depth ≤ room) (∀ t ∈ ts, t.FloatsSurvive) := by
  rw [Json.depth]
  cases room with
  | zero => exact .of_none ts (by omega)
  | succ room => exact (recovers_items fun t ht => h t ht room).congr (by omega) Iff.rfl

theorem recovers_option {o : Option Tree} (h : ∀ t ∈ o, t.RecoversIn room) :
    Recovers (optionOfJson? (ofJson? room) (some (optionToJson o))) o
      ((optionToJson o).depth ≤ room) (∀ t ∈ o, t.FloatsSurvive) := by
  cases o with
  | none => exact (Recovers.of_some none).congr (by simp [optionToJson, Json.depth]) (by simp)
  | some t =>
      have hread : optionOfJson? (ofJson? room) (some (optionToJson (some t))) =
          (ofJson? room t.toJson).map some := by
        rw [optionToJson, optionOfJson?]
        simpa using t.toJson_ne_null
      rw [hread]
      refine ((h t rfl).map fun _ _ => Option.some.inj).congr Iff.rfl ?_
      simp

/-! ### Whole trees -/

/-- To know what is read of a tree, it is enough to know how many levels its own form takes up and
what is read of its parts below these. -/
theorem recoversIn_of_steps {t : Tree} (steps inner : Nat) (hdepth : t.toJson.depth = inner + steps)
    (hshallow : ∀ room < steps, ofJson? room t.toJson = none)
    (hdeep : ∀ room, Recovers (ofJson? (room + steps) t.toJson) t (inner ≤ room) t.FloatsSurvive) :
    t.RecoversIn room := by
  rw [RecoversIn, hdepth]
  by_cases hroom : room < steps
  · rw [hshallow room hroom]
    exact .of_none t (by omega)
  · obtain ⟨below, rfl⟩ := Nat.exists_eq_add_of_le' (Nat.le_of_not_lt hroom)
    exact (hdeep below).congr (by omega) Iff.rfl

theorem recoversIn_of_parts {t : Tree} (hfloat : t.isFloat = false) (steps inner : Nat)
    (hdepth : t.toJson.depth = inner + steps)
    (hshallow : ∀ room < steps, ofJson? room t.toJson = none)
    (hdeep : ∀ room, Recovers (ofJson? (room + steps) t.toJson) t (inner ≤ room)
      (∀ c ∈ t.children, c.FloatsSurvive)) : t.RecoversIn room := by
  refine recoversIn_of_steps steps inner hdepth hshallow fun room => ?_
  rw [floatsSurvive_iff_children hfloat]
  exact hdeep room

theorem recoversIn_of_leaf {t : Tree} (hfloat : t.isFloat = false)
    (hleaf : t.children = []) (steps : Nat) (hdepth : t.toJson.depth = 0 + steps)
    (hshallow : ∀ room < steps, ofJson? room t.toJson = none)
    (hdeep : ∀ room, ofJson? (room + steps) t.toJson = some t) : t.RecoversIn room := by
  refine recoversIn_of_parts hfloat steps 0 hdepth hshallow fun room => ?_
  rw [hdeep, hleaf]
  exact (Recovers.of_some t).congr (by simp) (by simp)

theorem forall_lt_one {p : Nat → Prop} (h : p 0) : ∀ room < 1, p room := by
  intro room hroom
  rwa [Nat.lt_one_iff.1 hroom]

theorem forall_lt_two {p : Nat → Prop} (h : p 0) (h' : p 1) : ∀ room < 2, p room := by
  intro room hroom
  match room with
  | 0 => exact h
  | 1 => exact h'

theorem recoversIn_lit (value : Literal) : (lit value).RecoversIn room := by
  cases value with
  | symbol name =>
      exact recoversIn_of_leaf rfl rfl 2 rfl (forall_lt_two rfl rfl) fun _ => rfl
  | integer value =>
      refine recoversIn_of_leaf rfl rfl 2 rfl (forall_lt_two rfl rfl) fun room => ?_
      change ((Json.int value.toInt).int64?.map Literal.integer).map lit = _
      rw [Json.int64_int]
      rfl
  | float x =>
      have hinjective : Function.Injective (fun x => lit (.float x)) := fun _ _ h =>
        Literal.float.inj (lit.inj h)
      refine recoversIn_of_steps 2 0 ?_ (forall_lt_two rfl rfl) fun room => ?_
      · simp [toJson, Literal.toJson, Json.record, Json.depth, Json.membersDepth,
          Literal.depth_floatToJson]
      · change Recovers (((Literal.floatToJson x).float?.map Literal.float).map lit) _ _ _
        rw [Option.map_map, floatsSurvive_float_iff]
        refine ⟨?_, fun h => absurd (Nat.zero_le room) h⟩
        rw [Option.map_eq_some_iff, Binary64.SurvivesJson]
        simp [hinjective.eq_iff]

/-- One node is read if its children are. -/
theorem recoversIn_of_children {t : Tree} (ih : ∀ c ∈ t.children, ∀ room, c.RecoversIn room) :
    t.RecoversIn room := by
  cases t with
  | empty | nil | selfRef =>
      refine recoversIn_of_leaf rfl rfl 0 rfl nofun fun room => ?_
      cases room <;> rfl
  | sym _ | text _ | str _ | const _ | colon3 _ =>
      exact recoversIn_of_leaf rfl rfl 1 rfl (forall_lt_one rfl) fun _ => rfl
  | int value =>
      refine recoversIn_of_leaf rfl rfl 1 rfl (forall_lt_one rfl) fun room => ?_
      change (Json.int value.toInt).int64?.map int = _
      rw [Json.int64_int]
      rfl
  | lit value => exact recoversIn_lit value
  | colon2 scope name =>
      refine recoversIn_of_parts rfl 2 scope.toJson.depth ?_ (forall_lt_two rfl rfl)
        fun room => ?_
      · simp [toJson, Json.record, Json.depth, Json.membersDepth, Json.text]
        omega
      · have hscope := ih scope (by simp [children]) room
        have hread : ofJson? (room + 2) (colon2 scope name).toJson =
            (ofJson? room scope.toJson).map fun s => colon2 s name := by
          rw [Option.map_eq_bind]
          rfl
        rw [hread]
        refine (hscope.map fun _ _ h => (colon2.inj h).1).congr Iff.rfl ?_
        simp [children]
  | call receiver method args =>
      refine recoversIn_of_parts rfl 2
        (max (optionToJson receiver).depth (Json.arr (listToJson args)).depth) ?_
        (forall_lt_two rfl rfl) fun room => ?_
      · simp [toJson, Json.record, Json.depth, Json.membersDepth, Json.text]
        omega
      · have hreceiver := recovers_option (o := receiver) fun c hc =>
          ih c (by simp [children, Option.mem_def.1 hc]) room
        have hargs := recovers_array room args fun c hc =>
          ih c (by simp [children, hc])
        refine (Recovers.map₂ (f := fun r as => call r method as)
          (fun h => ⟨(call.inj h).1, (call.inj h).2.2⟩) hreceiver hargs).congr Nat.max_le ?_
        simp [children, or_imp, forall_and]
  | iter head params body =>
      refine recoversIn_of_parts rfl 2
        (max (max head.toJson.depth params.toJson.depth) (optionToJson body).depth) ?_
        (forall_lt_two rfl rfl) fun room => ?_
      · simp [toJson, Json.record, Json.depth, Json.membersDepth]
        omega
      · have hhead := ih head (by simp [children]) room
        have hparams := ih params (by simp [children]) room
        have hbody := recovers_option (o := body) fun c hc =>
          ih c (by simp [children, Option.mem_def.1 hc]) room
        refine (Recovers.map₃ (f := iter) (fun h => iter.inj h) hhead hparams hbody).congr
          (by rw [Nat.max_le, Nat.max_le]) ?_
        simp [children, and_assoc]
  | classDecl name parent body =>
      refine recoversIn_of_parts rfl 2
        (max (max name.toJson.depth (optionToJson parent).depth)
          (Json.arr (listToJson body)).depth) ?_
        (forall_lt_two rfl rfl) fun room => ?_
      · simp [toJson, Json.record, Json.depth, Json.membersDepth]
        omega
      · have hname := ih name (by simp [children]) room
        have hparent := recovers_option (o := parent) fun c hc =>
          ih c (by simp [children, Option.mem_def.1 hc]) room
        have hbody := recovers_array room body fun c hc =>
          ih c (by simp [children, hc])
        refine (Recovers.map₃ (f := classDecl) (fun h => classDecl.inj h)
          hname hparent hbody).congr (by rw [Nat.max_le, Nat.max_le]) ?_
        simp [children, or_imp, forall_and, and_assoc]
  | block ts | hash ts | array ts =>
      refine recoversIn_of_parts rfl 1 (Json.arr (listToJson ts)).depth ?_
        (forall_lt_one rfl) fun room => ?_
      · simp [toJson, Json.record, Json.depth, Json.membersDepth]
        omega
      · have hitems := recovers_array room ts fun c hc =>
          ih c (by simp [children, hc])
        exact hitems.map fun _ _ h => by injection h
  | node tag ts =>
      refine recoversIn_of_parts rfl 2 (Json.arr (listToJson ts)).depth ?_
        (forall_lt_two rfl rfl) fun room => ?_
      · simp [toJson, Json.record, Json.depth, Json.membersDepth, Json.text]
        omega
      · have hitems := recovers_array room ts fun c hc =>
          ih c (by simp [children, hc])
        have hread : ofJson? (room + 2) (node tag ts).toJson =
            (ofJson?.listOfJson? room (.arr (listToJson ts))).map fun us => node tag us := by
          rw [Option.map_eq_bind]
          rfl
        rw [hread]
        exact hitems.map fun _ _ h => (node.inj h).2

theorem recoversIn (t : Tree) (room : Nat) : t.RecoversIn room := by
  induction t using induction_below generalizing room with
  | step t ih => exact recoversIn_of_children fun c hc room => ih c hc room

/-! ### Text -/

theorem readable_floatToJson (x : Binary64) : (Literal.floatToJson x).Readable := by
  rw [Literal.floatToJson]
  split
  · next hx =>
      exact Json.readable_num (Decimal.Layout.json.numeral_proper hx)
        (Decimal.Layout.json.numeral_noLeadingZero hx)
  · exact .null

theorem readable_tagged (name : String) {content : Json} (h : content.Readable) :
    (Json.record [(name, content)]).Readable :=
  .record (List.forall_mem_singleton.2 h)

theorem readable_literal (value : Literal) : value.toJson.Readable := by
  cases value with
  | symbol name => exact readable_tagged _ (.text name)
  | integer value => exact readable_tagged _ (Json.readable_int value.toInt)
  | float x => exact readable_tagged _ (readable_floatToJson x)

theorem readable_optionToJson {o : Option Tree} (h : ∀ t ∈ o, t.toJson.Readable) :
    (optionToJson o).Readable := by
  cases o with
  | none => exact .null
  | some t => exact h t rfl

theorem readable_arr (ts : List Tree) (h : ∀ t ∈ ts, t.toJson.Readable) :
    (Json.arr (listToJson ts)).Readable := by
  refine .arr ?_
  induction ts with
  | nil => nofun
  | cons t ts ih =>
      obtain ⟨ht, hts⟩ := List.forall_mem_cons.1 h
      exact List.forall_mem_cons.2 ⟨ht, ih hts⟩

theorem readable_toJson (t : Tree) : t.toJson.Readable := by
  induction t using induction_below with
  | step t ih =>
      cases t with
      | empty | nil | selfRef => exact .text _
      | sym _ | text _ | str _ | const _ | colon3 _ => exact readable_tagged _ (.text _)
      | int value => exact readable_tagged _ (Json.readable_int value.toInt)
      | lit value => exact readable_tagged _ (readable_literal value)
      | colon2 scope name =>
          have hscope := ih scope (by simp [children])
          exact readable_tagged _ (.record (by simp [hscope, Json.Readable.text]))
      | call receiver method args =>
          have hreceiver := readable_optionToJson (o := receiver) fun c hc =>
            ih c (by simp [children, Option.mem_def.1 hc])
          have hargs := readable_arr args fun c hc => ih c (by simp [children, hc])
          exact readable_tagged _ (.record (by simp [hreceiver, hargs, Json.Readable.text]))
      | iter head params body =>
          have hhead := ih head (by simp [children])
          have hparams := ih params (by simp [children])
          have hbody := readable_optionToJson (o := body) fun c hc =>
            ih c (by simp [children, Option.mem_def.1 hc])
          exact readable_tagged _ (.record (by simp [hhead, hparams, hbody]))
      | classDecl name parent body =>
          have hname := ih name (by simp [children])
          have hparent := readable_optionToJson (o := parent) fun c hc =>
            ih c (by simp [children, Option.mem_def.1 hc])
          have hbody := readable_arr body fun c hc => ih c (by simp [children, hc])
          exact readable_tagged _ (.record (by simp [hname, hparent, hbody]))
      | block ts | hash ts | array ts =>
          exact readable_tagged _ (readable_arr ts fun c hc => ih c (by simp [children, hc]))
      | node tag ts =>
          have hitems := readable_arr ts fun c hc => ih c (by simp [children, hc])
          exact readable_tagged _ (.record (by simp [hitems, Json.Readable.text]))

theorem readJson_of_read {t : Tree} {text : String} (h : Json.read? text = some t.toJson) :
    (readJson? text = some t ↔ t.toJson.depth < 128 ∧ t.FloatsSurvive) ∧
      (128 ≤ t.toJson.depth → readJson? text = none) := by
  have hread : readJson? text = ofJson? maxJsonDepth t.toJson := by
    rw [readJson?, h]
    rfl
  have hrecovers := t.recoversIn maxJsonDepth
  rw [hread]
  refine ⟨hrecovers.some_iff.trans (and_congr_left' Nat.lt_succ_iff.symm), fun hdeep => ?_⟩
  exact hrecovers.eq_none (Nat.not_le.2 hdeep)

/-- Either text of a tree gives the tree back if its arrays and objects are nested fewer than 128
deep and the floating point numbers in the tree survive; a text that is nested deeper is
refused. -/
theorem readJson_written (t : Tree) :
    ((readJson? t.toJson.compact = some t ↔ t.toJson.depth < 128 ∧ t.FloatsSurvive) ∧
      (128 ≤ t.toJson.depth → readJson? t.toJson.compact = none)) ∧
    ((readJson? t.toJson.pretty = some t ↔ t.toJson.depth < 128 ∧ t.FloatsSurvive) ∧
      (128 ≤ t.toJson.depth → readJson? t.toJson.pretty = none)) :=
  ⟨readJson_of_read (Json.read_compact t.readable_toJson),
    readJson_of_read (Json.read_pretty t.readable_toJson)⟩

/-- What the notation cannot express, and a floating point number. -/
def oddTree : Tree :=
  .array [.call (some .empty) "x" [], .node "call" [], .lit (.float (.ofDecimal false 15 (-1)))]

theorem readJson_written_oddTree :
    (Binary64.ofDecimal false 15 (-1)).SurvivesJson ∧
      readJson? oddTree.toJson.compact = some oddTree ∧
      readJson? oddTree.toJson.pretty = some oddTree := by
  have hfloat : (Binary64.ofDecimal false 15 (-1)).SurvivesJson := by decide +kernel
  have hempty : FloatsSurvive .empty := (floatsSurvive_iff_children rfl).2 nofun
  have hnode : (node "call" []).FloatsSurvive := (floatsSurvive_iff_children rfl).2 nofun
  have hcall : (call (some .empty) "x" []).FloatsSurvive :=
    (floatsSurvive_iff_children rfl).2 (List.forall_mem_singleton.2 hempty)
  have hsurvive : oddTree.FloatsSurvive :=
    (floatsSurvive_iff_children rfl).2 (List.forall_mem_cons.2 ⟨hcall, List.forall_mem_cons.2
      ⟨hnode, List.forall_mem_singleton.2 (floatsSurvive_float_iff.2 hfloat)⟩⟩)
  have hdepth : oddTree.toJson.depth < 128 := by
    simp [oddTree, toJson, listToJson, optionToJson, Literal.toJson, Literal.depth_floatToJson,
      Json.record, Json.depth, Json.itemsDepth, Json.membersDepth, Json.text]
  obtain ⟨⟨hcompact, _⟩, hpretty, _⟩ := readJson_written oddTree
  exact ⟨hfloat, hcompact.2 ⟨hdepth, hsurvive⟩, hpretty.2 ⟨hdepth, hsurvive⟩⟩

end Tree
end Minispec
