import Literate.Yaml.Construction
import Mathlib.Data.List.Perm.Subperm
import Mathlib.Order.Nat

/-!
# Collections that are there

The value of a YAML text refers to collections by numbers.  A collection is made
empty, may be referred to at once, and is filled later; the numbers of those made
so far never change.

**Invariant.**  A workshop is closed when no collection in it refers to one that has
not been made.  `Make.Ensures` says that a computation keeps a workshop closed, that
it takes no collection away, and what it gives.

**Texts.**  A collection inside itself is shown by dots.  So the collections around
a value are different ones, there are no more of them than have been made, and the
depth suffices.

**Main statements.**
* `load_isClosed`: a value that has been read refers to collections that are there.
* `Data.isSome_textOf`: such a value has a text unless it holds a number with too many digits.
-/

namespace Literate
namespace Yaml

/-- The values in a collection. -/
def Collection.values : Collection → List Value
  | .list items => items
  | .mapping pairs => pairs.flatMap fun pair => [pair.1, pair.2]
  | .set items => items
  | .pair key value => [key, value]

/-- A value refers to one of the first `count` collections, if to any. -/
def Value.IsBelow (count : Nat) : Value → Prop
  | .ref number => number < count
  | _ => True

theorem Value.IsBelow.mono
    {count count' : Nat} {v : Value}
    (h : v.IsBelow count)
    (hle : count ≤ count') :
    v.IsBelow count' := by
  cases v with
  | ref number =>
      exact Nat.lt_of_lt_of_le h hle
  | _ =>
      trivial

/-- Whether a value is not a number with too many digits. -/
def Value.isShort : Value → Bool
  | .int n => decide (n.natAbs < Nat.pow 10 Text.digitLimit)
  | _ => true

namespace Data

/-- The values that the value of a text is made of. -/
def held (data : Data) : List Value :=
  data.root :: data.collections.toList.flatMap Collection.values

theorem mem_held
    {data : Data} {collection : Collection} {v : Value}
    (hcollection : collection ∈ data.collections)
    (hv : v ∈ collection.values) :
    v ∈ data.held :=
  List.mem_cons_of_mem _ (List.mem_flatMap.mpr ⟨collection, Array.mem_def.mp hcollection, hv⟩)

/-- No value refers to a collection that is not there. -/
def IsClosed (data : Data) : Prop :=
  ∀ v ∈ data.held, v.IsBelow data.collections.size

/-- No number has too many digits. -/
def IsLegible (data : Data) : Prop :=
  ∀ v ∈ data.held, v.isShort = true

instance decidableIsLegible (data : Data) : Decidable data.IsLegible :=
  inferInstanceAs (Decidable (∀ v ∈ data.held, v.isShort = true))

theorem isClosed_of_forall
    {data : Data}
    (hroot : data.root.IsBelow data.collections.size)
    (h : ∀ collection ∈ data.collections, ∀ v ∈ collection.values, v.IsBelow data.collections.size) :
    data.IsClosed := by
  refine List.forall_mem_cons.mpr ⟨hroot, fun v hv => ?_⟩
  obtain ⟨collection, hcollection, hv⟩ := List.mem_flatMap.mp hv
  exact h collection (Array.mem_def.mpr hcollection) v hv

end Data

section Making

/-- No collection refers to one that has not been made. -/
structure Workshop.IsClosed (workshop : Workshop) : Prop where
  /-- The values in collections. -/
  values : ∀ collection ∈ workshop.collections, ∀ v ∈ collection.values,
    v.IsBelow workshop.collections.size
  /-- The collections of nodes. -/
  made : ∀ entry ∈ workshop.made, entry.2 < workshop.collections.size

theorem Workshop.isClosed_new
    (graph : Graph) :
    ({ graph := graph } : Workshop).IsClosed where
  values := fun _ hcollection => absurd hcollection (Array.not_mem_empty _)
  made := fun _ hentry => absurd hentry List.not_mem_nil

namespace Make

variable {α β : Type} {count : Nat}

/-- Where `count` collections have been made, a computation keeps the workshop closed, takes no collection
away, and gives what it should for the collections made by then. -/
def Ensures (count : Nat) (m : Make α) (post : α → Nat → Prop) : Prop :=
  ∀ workshop a workshop', workshop.IsClosed → count ≤ workshop.collections.size →
    m workshop = .ok (a, workshop') →
    workshop'.IsClosed ∧ workshop.collections.size ≤ workshop'.collections.size ∧
      post a workshop'.collections.size

/-- A computation that only keeps the workshop closed. -/
abbrev Keeps (count : Nat) (m : Make α) : Prop :=
  Ensures count m fun _ _ => True

theorem Ensures.bind
    {m : Make α} {f : α → Make β} {post : α → Nat → Prop} {post' : β → Nat → Prop}
    (hm : Ensures count m post)
    (hf : ∀ a count', count ≤ count' → post a count' → Ensures count' (f a) post') :
    Ensures count (m >>= f) post' := by
  intro workshop b workshop' hclosed hcount hrun
  rw [show (m >>= f) workshop = (m workshop >>= fun found => f found.1 found.2) from rfl] at hrun
  cases hfirst : m workshop with
  | error cause =>
      rw [hfirst] at hrun
      cases hrun
  | ok found =>
      obtain ⟨a, between⟩ := found
      rw [hfirst] at hrun
      obtain ⟨hbetween, hle, hpost⟩ := hm workshop a between hclosed hcount hfirst
      obtain ⟨hlast, hle', hpost'⟩ :=
        hf a _ (hcount.trans hle) hpost between b workshop' hbetween le_rfl hrun
      exact ⟨hlast, hle.trans hle', hpost'⟩

theorem Ensures.imp
    {m : Make α} {post post' : α → Nat → Prop}
    (hm : Ensures count m post)
    (himp : ∀ a count', count ≤ count' → post a count' → post' a count') :
    Ensures count m post' := by
  intro workshop a workshop' hclosed hcount hrun
  obtain ⟨hlast, hle, hpost⟩ := hm workshop a workshop' hclosed hcount hrun
  exact ⟨hlast, hle, himp a _ (hcount.trans hle) hpost⟩

theorem ensures_pure
    {a : α} {post : α → Nat → Prop}
    (h : ∀ count', count ≤ count' → post a count') :
    Ensures count (pure a : Make α) post := by
  intro workshop b workshop' hclosed hcount hrun
  cases hrun
  exact ⟨hclosed, le_rfl, h _ hcount⟩

theorem keeps_pure
    (a : α) :
    Keeps count (pure a : Make α) :=
  ensures_pure fun _ _ => trivial

theorem ensures_throw
    {cause : Error} {post : α → Nat → Prop} :
    Ensures count (throw cause : Make α) post := by
  intro workshop a workshop' _ _ hrun
  cases hrun

theorem ensures_get :
    Ensures count (get : Make Workshop) fun workshop count' =>
      workshop.IsClosed ∧ workshop.collections.size = count' := by
  intro workshop a workshop' hclosed hcount hrun
  cases hrun
  exact ⟨hclosed, le_rfl, hclosed, rfl⟩

/-- A change that concerns neither collections nor the nodes they were made for. -/
theorem keeps_modify
    {f : Workshop → Workshop}
    (hcollections : ∀ workshop, (f workshop).collections = workshop.collections)
    (hmade : ∀ workshop, (f workshop).made = workshop.made) :
    Keeps count (modify f : Make PUnit) := by
  intro workshop a workshop' hclosed hcount hrun
  cases hrun
  refine ⟨⟨?_, ?_⟩, (congrArg Array.size (hcollections workshop)).ge, trivial⟩
  · rw [hcollections]
    exact hclosed.values
  · rw [hcollections, hmade]
    exact hclosed.made

theorem keeps_forM
    {f : α → Make PUnit}
    (hf : ∀ a count, Keeps count (f a)) (items : List α) :
    Keeps count (items.forM f) := by
  induction items generalizing count with
  | nil =>
      exact keeps_pure _
  | cons a items ih =>
      exact (hf a count).bind fun _ _ _ _ => ih

/-- Values made one after the other. -/
theorem ensures_mapM
    {f : α → Make β} {post : β → Nat → Prop}
    (hmono : ∀ b count count', count ≤ count' → post b count → post b count')
    (hf : ∀ a count, Ensures count (f a) post) (items : List α) :
    Ensures count (items.mapM f) fun made count' => ∀ b ∈ made, post b count' := by
  induction items generalizing count with
  | nil =>
      exact ensures_pure fun _ _ b hb => by cases hb
  | cons a items ih =>
      rw [List.mapM_cons]
      refine (hf a count).bind fun b count₁ _ hb => ?_
      refine ih.bind fun made count₂ hle hmade => ?_
      refine ensures_pure fun count₃ hle' => List.forall_mem_cons.mpr ⟨?_, fun c hc => ?_⟩
      · exact hmono b count₁ count₃ (hle.trans hle') hb
      · exact hmono c count₂ count₃ hle' (hmade c hc)

theorem keeps_node
    (id : NodeId) :
    Keeps count (node id) := by
  refine ensures_get.bind fun workshop _ _ _ => ?_
  split
  · exact keeps_pure _
  · exact ensures_throw

theorem keeps_modifyNode
    (id : NodeId) (f : Node → Node) :
    Keeps count (modifyNode id f) :=
  keeps_modify (fun _ => rfl) fun _ => rfl

theorem keeps_pairsOf
    (id : NodeId) :
    Keeps count (pairsOf id) := by
  refine (keeps_node id).bind fun found _ _ _ => ?_
  split
  · exact keeps_pure _
  · exact ensures_throw

theorem keeps_mergePlace?
    (pairs : List (NodeId × NodeId)) :
    Keeps count (mergePlace? pairs) := by
  induction pairs generalizing count with
  | nil =>
      exact keeps_pure _
  | cons pair pairs ih =>
      have hmerge : Keeps count (isMerge pair) :=
        (keeps_node _).bind fun _ _ _ _ => keeps_pure _
      refine hmerge.bind fun merges _ _ _ => ?_
      split
      · exact keeps_pure _
      · exact ih.bind fun _ _ _ _ => keeps_pure _

/-- Merging concerns only the nodes. -/
theorem keeps_flattenFrom_and_mergedPairs
    (fuel : Nat) :
    (∀ count id place merged, Keeps count (flattenFrom fuel id place merged)) ∧
      ∀ count source, Keeps count (mergedPairs fuel source) := by
  induction fuel with
  | zero =>
      exact ⟨fun _ _ _ _ => ensures_throw, fun _ _ => ensures_throw⟩
  | succ fuel ih =>
      obtain ⟨hflatten, hmerged⟩ := ih
      constructor
      · intro count id place merged
        rw [flattenFrom]
        refine (keeps_pairsOf id).bind fun pairs _ _ _ => ?_
        refine (keeps_mergePlace? _).bind fun place? _ _ _ => ?_
        cases place? with
        | none =>
            refine (keeps_forM (fun pair _ => keeps_modifyNode _ _) _).bind fun _ _ _ _ => ?_
            exact keeps_modifyNode _ _
        | some ahead =>
            refine (keeps_forM (fun pair _ => keeps_modifyNode _ _) _).bind fun _ _ _ _ => ?_
            refine (keeps_modifyNode _ _).bind fun _ _ _ _ => ?_
            cases pairs[place + ahead]? with
            | none =>
                exact ensures_throw
            | some pair =>
                exact (hmerged _ _).bind fun _ _ _ _ => hflatten _ _ _ _
      · intro count source
        rw [mergedPairs]
        have hone : ∀ item count, Keeps count (do
            let _ ← pairsOf item
            flattenFrom fuel item 0 []
            pairsOf item) := fun item count =>
          (keeps_pairsOf item).bind fun _ _ _ _ =>
            (hflatten _ item 0 []).bind fun _ _ _ _ => keeps_pairsOf item
        refine (keeps_node source).bind fun found _ _ _ => ?_
        cases found.content with
        | scalar points =>
            exact ensures_throw
        | mapping pairs =>
            exact (hflatten _ source 0 []).bind fun _ _ _ _ => keeps_pairsOf source
        | sequence items =>
            exact (ensures_mapM (fun _ _ _ _ _ => trivial) hone items).bind fun _ _ _ _ =>
              keeps_pure _

theorem keeps_scalarContent
    (fuel : Nat) (id : NodeId) :
    Keeps count (scalarContent fuel id) := by
  induction fuel generalizing count id with
  | zero =>
      exact ensures_throw
  | succ fuel ih =>
      have hfind : ∀ (pairs : List (NodeId × NodeId)) count, Keeps count (pairs.findM? fun pair => do
          return (← node pair.1).tag = .default) := by
        intro pairs
        induction pairs with
        | nil =>
            exact fun _ => keeps_pure _
        | cons pair pairs hpairs =>
            intro count
            rw [List.findM?]
            have hdefault : Keeps count (do return decide ((← node pair.1).tag = .default)) :=
              (keeps_node _).bind fun _ _ _ _ => keeps_pure _
            refine hdefault.bind fun isDefault _ _ _ => ?_
            split
            · exact keeps_pure _
            · exact hpairs _
      rw [scalarContent]
      refine (keeps_node id).bind fun found _ _ _ => ?_
      split
      · exact keeps_pure _
      · exact ensures_throw
      · refine (hfind _ _).bind fun pair? _ _ _ => ?_
        split
        · exact ih _
        · exact ensures_throw

/-- A node is noted with its collection. -/
theorem ensures_note
    {id : NodeId} {number : Nat}
    (h : number < count) :
    Keeps count (modify fun workshop =>
      { workshop with
        made := (id, number) :: workshop.made
        waiting := (id, number) :: workshop.waiting } : Make PUnit) := by
  intro workshop a workshop' hclosed hcount hrun
  cases hrun
  refine ⟨⟨hclosed.values, List.forall_mem_cons.mpr ⟨?_, hclosed.made⟩⟩, le_rfl, trivial⟩
  exact Nat.lt_of_lt_of_le h hcount

/-- A scalar refers to no collection. -/
theorem isBelow_of_scalarReader?
    {tag : Tag} {read : CodePoints → Except Error Value} {points : CodePoints} {v : Value}
    (hread : scalarReader? tag = some read)
    (h : read points = .ok v) :
    v.IsBelow count := by
  have hmap : ∀ {γ : Type} {r : Except Error γ} {make : γ → Value}, r.map make = .ok v →
      (∀ x, (make x).IsBelow count) → v.IsBelow count := by
    intro γ r make hr hmake
    cases r with
    | error cause =>
        cases hr
    | ok x =>
        cases hr
        exact hmake x
  cases tag <;> cases hread
  case null | str =>
    cases h
    trivial
  all_goals exact hmap h fun _ => trivial

theorem ensures_lift
    {r : Except Error α} {post : α → Nat → Prop}
    (h : ∀ a, r = .ok a → ∀ count, post a count) :
    Ensures count (liftM r : Make α) post := by
  intro workshop a workshop' hclosed hcount hrun
  cases r with
  | error cause =>
      cases hrun
  | ok found =>
      cases hrun
      exact ⟨hclosed, le_rfl, h _ rfl _⟩

/-- A new collection has the next number. -/
theorem ensures_addCollection
    {collection : Collection}
    (h : ∀ v ∈ collection.values, v.IsBelow count) :
    Ensures count (addCollection collection) fun number count' => number < count' := by
  intro workshop number workshop' hclosed hcount hrun
  cases hrun
  have hsize : (workshop.collections.push collection).size = workshop.collections.size + 1 :=
    Array.size_push _
  refine ⟨⟨fun other hother v hv => ?_, fun entry hentry => ?_⟩, ?_, ?_⟩ <;> rw [hsize]
  · rcases Array.mem_push.mp hother with hother | rfl
    · exact (hclosed.values other hother v hv).mono (Nat.le_succ _)
    · exact (h v hv).mono (hcount.trans (Nat.le_succ _))
  · exact Nat.lt_succ_of_lt (hclosed.made entry hentry)
  · exact Nat.le_succ _
  · exact Nat.lt_succ_self _

/-- The value of a node refers to a collection that has been made. -/
theorem ensures_value
    (id : NodeId) :
    Ensures count (value id) fun v count' => v.IsBelow count' := by
  rw [value]
  refine ensures_get.bind fun workshop size _ hworkshop => ?_
  split
  · rename_i number hnumber
    obtain ⟨earlier, later, heq, -⟩ := List.lookup_eq_some_iff.mp hnumber
    have hmade : number < size := by
      rw [← hworkshop.2]
      exact hworkshop.1.made (id, number) (by simp [heq])
    exact ensures_pure fun _ hle => Nat.lt_of_lt_of_le hmade hle
  refine (keeps_node id).bind fun found _ _ _ => ?_
  split
  · rename_i collection hempty
    -- A new collection is empty, so that nothing in it can refer to a later one.
    have hvalues : collection.values = [] := by
      cases htag : found.tag <;> rw [htag] at hempty <;> cases hempty <;> rfl
    refine (ensures_addCollection fun v hv => ?_).bind fun number size' _ hnumber => ?_
    · rw [hvalues] at hv
      cases hv
    · refine Ensures.bind (ensures_note hnumber) fun _ _ hle _ => ?_
      exact ensures_pure fun _ hle' => Nat.lt_of_lt_of_le hnumber (hle.trans hle')
  · split
    · exact ensures_throw
    · rename_i read hread
      refine ensures_get.bind fun _ _ _ _ => ?_
      refine (keeps_scalarContent _ id).bind fun points _ _ _ => ?_
      split
      · exact ensures_throw
      · exact ensures_lift fun v hv _ => isBelow_of_scalarReader? hread hv

/-- The pairs of a mapping after one more hold no other values. -/
theorem forall_mem_putPair
    {P : Value → Prop} {key item : Value} {pairs : List (Value × Value)}
    (hkey : P key)
    (hitem : P item)
    (h : ∀ pair ∈ pairs, P pair.1 ∧ P pair.2) :
    ∀ pair ∈ putPair key item pairs, P pair.1 ∧ P pair.2 := by
  induction pairs with
  | nil =>
      exact List.forall_mem_singleton.mpr ⟨hkey, hitem⟩
  | cons first pairs ih =>
      obtain ⟨hfirst, hrest⟩ := List.forall_mem_cons.mp h
      rw [putPair]
      split
      · exact List.forall_mem_cons.mpr ⟨⟨hfirst.1, hitem⟩, hrest⟩
      · exact List.forall_mem_cons.mpr ⟨hfirst, ih hrest⟩

theorem ensures_mappingValues
    {done : List (Value × Value)} (pairs : List (NodeId × NodeId))
    (h : ∀ pair ∈ done, pair.1.IsBelow count ∧ pair.2.IsBelow count) :
    Ensures count (mappingValues done pairs) fun made count' =>
      ∀ pair ∈ made, pair.1.IsBelow count' ∧ pair.2.IsBelow count' := by
  have hmono : ∀ {done : List (Value × Value)} {count count' : Nat}, count ≤ count' →
      (∀ pair ∈ done, pair.1.IsBelow count ∧ pair.2.IsBelow count) →
      ∀ pair ∈ done, pair.1.IsBelow count' ∧ pair.2.IsBelow count' :=
    fun hle h pair hpair => ⟨(h pair hpair).1.mono hle, (h pair hpair).2.mono hle⟩
  induction pairs generalizing count done with
  | nil =>
      exact ensures_pure fun _ hle => hmono hle h
  | cons pair pairs ih =>
      refine (ensures_value pair.1).bind fun key _ hle hkey => ?_
      split
      · refine (ensures_value pair.2).bind fun item _ hle' hitem => ?_
        exact ih (forall_mem_putPair (hkey.mono hle') hitem (hmono (hle.trans hle') h))
      · exact ensures_throw

theorem ensures_mappingOf
    (id : NodeId) :
    Ensures count (mappingOf id) fun made count' =>
      ∀ pair ∈ made, pair.1.IsBelow count' ∧ pair.2.IsBelow count' := by
  refine (keeps_node id).bind fun found _ _ _ => ?_
  split
  · refine (ensures_get.bind fun _ _ _ _ =>
      (keeps_flattenFrom_and_mergedPairs _).1 _ id 0 []).bind fun _ _ _ _ => ?_
    refine (keeps_pairsOf id).bind fun pairs _ _ _ => ?_
    exact ensures_mappingValues pairs fun pair hpair => by cases hpair
  · exact ensures_throw

theorem ensures_pairValue
    (id : NodeId) :
    Ensures count (pairValue id) fun v count' => v.IsBelow count' := by
  refine (keeps_node id).bind fun found _ _ _ => ?_
  split
  · rename_i k v _
    refine (ensures_value k).bind fun key _ _ hkey => ?_
    refine (ensures_value v).bind fun item _ hle hitem => ?_
    refine (ensures_addCollection ?_).bind fun number _ _ hnumber => ?_
    · exact List.forall_mem_cons.mpr ⟨hkey.mono hle, List.forall_mem_singleton.mpr hitem⟩
    · exact ensures_pure fun _ hle' => Nat.lt_of_lt_of_le hnumber hle'
  · exact ensures_throw

/-- A collection is filled with values that refer to collections that have been made. -/
theorem ensures_filled
    (id : NodeId) :
    Ensures count (filled id) fun collection count' => ∀ v ∈ collection.values, v.IsBelow count' := by
  have hitems : ∀ {f : NodeId → Make Value} {count : Nat} (items : List NodeId),
      (∀ id count, Ensures count (f id) fun v count' => v.IsBelow count') →
      Ensures count (do return Collection.list (← items.mapM f)) fun collection count' =>
        ∀ v ∈ collection.values, v.IsBelow count' := by
    intro f count items hf
    refine (ensures_mapM (fun v _ _ hle hv => hv.mono hle) hf items).bind fun made _ _ hmade => ?_
    exact ensures_pure fun _ hle v hv => (hmade v hv).mono hle
  refine (keeps_node id).bind fun found _ _ _ => ?_
  split
  · exact hitems _ fun _ _ => ensures_value _
  · exact hitems _ fun _ _ => ensures_pairValue _
  · exact hitems _ fun _ _ => ensures_pairValue _
  · refine (ensures_mappingOf id).bind fun made _ _ hmade => ?_
    refine ensures_pure fun _ hle v hv => ?_
    obtain ⟨pair, hpair, hv⟩ := List.mem_flatMap.mp hv
    obtain ⟨hkey, hitem⟩ := hmade pair hpair
    rcases List.mem_pair.mp hv with rfl | rfl
    · exact hkey.mono hle
    · exact hitem.mono hle
  · refine (ensures_mappingOf id).bind fun made _ _ hmade => ?_
    refine ensures_pure fun _ hle v hv => ?_
    obtain ⟨pair, hpair, rfl⟩ := List.mem_map.mp hv
    exact (hmade pair hpair).1.mono hle
  · exact ensures_throw

theorem keeps_fillEach
    (waiting : List (NodeId × Nat)) :
    Keeps count (fillEach waiting) := by
  induction waiting generalizing count with
  | nil =>
      exact keeps_pure _
  | cons entry waiting ih =>
      refine (ensures_filled entry.1).bind fun collection size _ hvalues => ?_
      -- Filling a collection does not change how many there are.
      refine Ensures.bind (?_ : Keeps size _) fun _ _ _ _ => ih
      intro workshop a workshop' hclosed hcount hrun
      cases hrun
      have hsize : (workshop.collections.setIfInBounds entry.2 collection).size =
          workshop.collections.size := Array.size_setIfInBounds
      refine ⟨⟨fun other hother v hv => ?_, fun made hmade => ?_⟩, hsize.ge, trivial⟩ <;> rw [hsize]
      · rcases Array.mem_or_eq_of_mem_setIfInBounds hother with hother | rfl
        · exact hclosed.values other hother v hv
        · exact (hvalues v hv).mono hcount
      · exact hclosed.made made hmade

theorem keeps_fillAll
    (fuel : Nat) :
    Keeps count (fillAll fuel) := by
  induction fuel generalizing count with
  | zero =>
      exact keeps_pure _
  | succ fuel ih =>
      refine ensures_get.bind fun workshop _ _ _ => ?_
      dsimp only
      split
      · exact keeps_pure _
      · refine Ensures.bind (keeps_modify (fun _ => rfl) fun _ => rfl) fun _ _ _ _ => ?_
        exact (keeps_fillEach _).bind fun _ _ _ _ => ih

theorem ensures_whole
    (id : NodeId) :
    Ensures count (whole id) fun v count' => v.IsBelow count' := by
  refine (ensures_value id).bind fun v _ _ hv => ?_
  refine ensures_get.bind fun _ _ hle _ => ?_
  refine (keeps_fillAll _).bind fun _ _ hle' _ => ?_
  exact ensures_pure fun _ hle'' => hv.mono ((hle.trans hle').trans hle'')

end Make

theorem isClosed_null :
    ({ root := .null } : Data).IsClosed :=
  Data.isClosed_of_forall trivial fun _ hcollection => absurd hcollection (Array.not_mem_empty _)

/-- The values that a loader gives refer to collections that are there. -/
def Loader.IsClosed (loader : Loader) : Prop :=
  ∀ t data, loader t = .ok data → data.IsClosed

/-- A value that has been read refers to collections that are there. -/
theorem load_isClosed : Loader.IsClosed load := by
  intro t data h
  rw [load] at h
  cases htree : NodeTree.ofText t with
  | error cause =>
      rw [htree] at h
      cases h
  | ok tree =>
      cases hroot : tree.root with
      | none =>
          simp only [htree, hroot, bind, Except.bind] at h
          cases h
          exact isClosed_null
      | some id =>
          simp only [htree, hroot, bind, Except.bind] at h
          cases hrun : (Make.whole id).run { graph := tree.graph } with
          | error cause =>
              simp only [hrun] at h
              cases h
          | ok found =>
              simp only [hrun] at h
              cases h
              obtain ⟨hclosed, -, hbelow⟩ :=
                Make.ensures_whole id _ found.1 found.2 (Workshop.isClosed_new tree.graph) le_rfl hrun
              exact Data.isClosed_of_forall hbelow hclosed.values

end Making

section Texts

variable {data : Data} {v : Value}

/-- A collection has a text if all values in it have one. -/
theorem Collection.isSome_displayWith
    {display : Value → Option Text} {collection : Collection}
    (h : ∀ v ∈ collection.values, (display v).isSome = true) :
    (collection.displayWith display).isSome = true := by
  have hitems : ∀ {α : Type} {shown : α → Option Text} (items : List α),
      (∀ item ∈ items, (shown item).isSome = true) → ∃ texts, items.mapM shown = some texts := by
    intro α shown items
    induction items with
    | nil =>
        exact fun _ => ⟨[], rfl⟩
    | cons item items ih =>
        intro hall
        obtain ⟨hitem, hrest⟩ := List.forall_mem_cons.mp hall
        obtain ⟨text, htext⟩ := Option.isSome_iff_exists.mp hitem
        obtain ⟨texts, htexts⟩ := ih hrest
        exact ⟨text :: texts, by simp [List.mapM_cons, htext, htexts]⟩
  have hpair : ∀ {key item : Value} (separator : Text), (display key).isSome = true →
      (display item).isSome = true →
      (do some ((← display key) ++ separator ++ (← display item))).isSome = true := by
    intro key item separator hkey hitem
    obtain ⟨first, hfirst⟩ := Option.isSome_iff_exists.mp hkey
    obtain ⟨second, hsecond⟩ := Option.isSome_iff_exists.mp hitem
    simp [hfirst, hsecond]
  cases collection with
  | list items =>
      obtain ⟨texts, htexts⟩ := hitems items h
      simp [displayWith, htexts]
  | mapping pairs =>
      obtain ⟨texts, htexts⟩ := hitems pairs fun pair hmem =>
        hpair ": " (h pair.1 (List.mem_flatMap.mpr ⟨pair, hmem, by simp⟩))
          (h pair.2 (List.mem_flatMap.mpr ⟨pair, hmem, by simp⟩))
      simp only [displayWith, htexts]
      rfl
  | set items =>
      obtain ⟨texts, htexts⟩ := hitems items h
      rw [displayWith]
      split
      · rfl
      · simp [htexts]
  | pair key item =>
      obtain ⟨first, hfirst⟩ := Option.isSome_iff_exists.mp (h key (by simp [values]))
      obtain ⟨second, hsecond⟩ := Option.isSome_iff_exists.mp (h item (by simp [values]))
      simp [displayWith, hfirst, hsecond]

namespace Data

/-- A value on its own can be shown: its collection is there, and its number is short enough. -/
def CanShow (data : Data) (v : Value) : Prop :=
  v.IsBelow data.collections.size ∧ v.isShort = true

/-- The numbers of the collections around a value are different ones, so that the depth suffices. -/
theorem isSome_displayIn
    (hclosed : data.IsClosed)
    (hlegible : data.IsLegible)
    (depth : Nat) (outside : List Nat)
    (hdepth : data.collections.size < depth + outside.length)
    (hnodup : outside.Nodup)
    (houtside : ∀ number ∈ outside, number < data.collections.size)
    (hv : data.CanShow v) :
    (data.displayIn depth outside v).isSome = true := by
  induction depth generalizing outside v with
  | zero =>
      -- There would be more collections around the value than have been made.
      have hsubset : outside ⊆ List.range data.collections.size :=
        fun number hnumber => List.mem_range.mpr (houtside number hnumber)
      have hlength := (List.subperm_of_subset hnodup hsubset).length_le
      rw [List.length_range] at hlength
      omega
  | succ depth ih =>
      cases v with
      | ref number =>
          have hnumber : number < data.collections.size := hv.1
          have hfound : data.collection? number = some data.collections[number] :=
            Array.getElem?_eq_getElem hnumber
          simp only [displayIn, hfound, Option.bind_eq_bind, Option.bind_some]
          split
          · rfl
          · rename_i hnew
            refine Collection.isSome_displayWith fun inner hinner => ih (number :: outside) ?_ ?_ ?_ ?_
            · rw [List.length_cons]
              omega
            · exact List.nodup_cons.mpr ⟨fun hmem => hnew (List.contains_iff_mem.mpr hmem), hnodup⟩
            · exact List.forall_mem_cons.mpr ⟨hnumber, houtside⟩
            · have hheld := mem_held (Array.getElem_mem hnumber) hinner
              exact ⟨hclosed _ hheld, hlegible _ hheld⟩
      | int n =>
          have hshort := hv.2
          rw [Value.isShort, decide_eq_true_eq] at hshort
          simp only [displayIn, Value.scalarDisplay?, Text.ofInt?, if_pos hshort]
          rfl
      | _ =>
          rfl

/-- A value has a text unless a number has too many digits. -/
theorem isSome_textOf
    (hclosed : data.IsClosed)
    (hlegible : data.IsLegible)
    (hv : data.CanShow v) :
    (data.textOf v).isSome = true := by
  cases v with
  | text points =>
      rfl
  | time t =>
      rfl
  | _ =>
      exact isSome_displayIn hclosed hlegible _ [] (Nat.lt_succ_self _) List.nodup_nil
        (fun number hnumber => by cases hnumber) hv

end Data

end Texts

end Yaml
end Literate
