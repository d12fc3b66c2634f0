/-
# BoardCompiler.Proofs.Yaml.Load — what loading gives

A load runs from the number of aliases followed before it to the number followed after
it. `Gives x n a m` says that it succeeds, with both counts, and each way of putting
loads together has its rule. An alias is looked up once and stands for a node that is
none (`resolve`), since only nodes of other kinds bear anchors. What a scalar is worth
depends on its tag, its quotes and its text alone.
-/
import BoardCompiler.Proofs.Yaml.Scalar
import BoardCompiler.Yaml.Load

namespace BoardCompiler.Yaml

set_option autoImplicit false

namespace Load

variable {α β : Type} {n m : Nat}

/-- A load that has followed `n` aliases gives a result, and has then followed `m`. -/
def Gives (x : Load α) (n : Nat) (a : α) (m : Nat) : Prop := x n = .ok (a, m)

theorem gives_pure_iff {a b : α} : Gives (pure a) n b m ↔ b = a ∧ m = n := by
  have run : (pure a : Load α) n = .ok (a, n) := rfl
  simp only [Gives, run, Except.ok.injEq, Prod.mk.injEq, eq_comm]

theorem gives_bind_iff {x : Load α} {f : α → Load β} {b : β} :
    Gives (x >>= f) n b m ↔ ∃ a k, Gives x n a k ∧ Gives (f a) k b m := by
  have run : (x >>= f) n = x n >>= fun r => f r.1 r.2 := rfl
  unfold Gives
  rw [run]
  cases x n with
  | error refusal => exact iff_of_false nofun nofun
  | ok r =>
      constructor
      · intro given
        exact ⟨r.1, r.2, rfl, given⟩
      · rintro ⟨a, k, same, given⟩
        cases same
        exact given

theorem not_gives_throw {refusal : Refusal} {a : α} :
    ¬ Gives (throw refusal : Load α) n a m := nofun

theorem not_gives_refuse {cause : Cause} {a : α} : ¬ Gives (refuse cause : Load α) n a m := nofun

/-- A refusal that is put in front leaves what comes after it alone, if it does not happen. -/
theorem gives_unless_iff {refused : Bool} {cause : Cause} {x : Load α} {a : α} :
    Gives (if refused = true then (refuse cause : Load PUnit) >>= fun _ => x else x) n a m ↔
      refused = false ∧ Gives x n a m := by
  cases refused with
  | false => simp
  | true =>
      refine iff_of_false ?_ (by simp)
      rw [if_pos rfl, gives_bind_iff]
      rintro ⟨_, _, given, -⟩
      exact not_gives_refuse given

theorem gives_located_iff {x : Load α} {path : Path} {mark : Mark} {a : α} :
    Gives (located path mark x) n a m ↔ Gives x n a m := by
  unfold Gives located
  split
  next given => rw [given]
  next refused => simp [refused]
  next refused => simp [refused]

theorem not_gives_wrongNode {expected : String} {node : Node} {a : α} :
    ¬ Gives (wrongNode expected node : Load α) n a m := by
  unfold wrongNode
  split
  · split <;> exact not_gives_refuse
  · exact not_gives_refuse
  · exact not_gives_refuse

/-! ## Entries -/

theorem gives_entriesWith_cons_iff {read : Path → Node → Load Value} {path : Path}
    {key value : Node} {rest : List (Node × Node)} {done loaded : List (Value × Value)} :
    Gives (entriesWith read path ((key, value) :: rest) done) n loaded m ↔
      ∃ a k b k', Gives (read path key) n a k ∧
        (done.any fun entry => entry.1.same a) = false ∧
        Gives (read (entryPath path key) value) k b k' ∧
        Gives (entriesWith read path rest (done ++ [(a, b)])) k' loaded m := by
  simp only [entriesWith, gives_bind_iff, gives_unless_iff, exists_and_left]

/-- Entries are read onto those that are there. -/
theorem append_of_entriesWith {read : Path → Node → Load Value} {path : Path}
    {entries : List (Node × Node)} {done loaded : List (Value × Value)}
    (given : Gives (entriesWith read path entries done) n loaded m) :
    ∃ more, loaded = done ++ more := by
  induction entries generalizing done n with
  | nil =>
      obtain ⟨rfl, -⟩ := gives_pure_iff.mp given
      exact ⟨[], (List.append_nil _).symm⟩
  | cons entry rest ih =>
      obtain ⟨a, k, b, k', -, -, -, given⟩ := gives_entriesWith_cons_iff.mp given
      obtain ⟨more, rfl⟩ := ih given
      exact ⟨(a, b) :: more, by simp⟩

/-! ## Nodes -/

/-- The value of what a scalar is, unless the scalar is too wide. -/
def valueOf? : Found → Option Value
  | .null => some .null
  | .bool b => some (.bool b)
  | .integer n => some (.integer n)
  | .float x => some (.float x)
  | .string s => some (.string s)
  | _ => none

theorem gives_scalarValue_iff {tag : NodeTag} {plain : Bool} {text : List Char} {n m : Nat}
    {v : Value} :
    Gives (scalarValue tag plain text) n v m ↔
      (∃ found, Scalar.classify tag plain text = .ok found ∧ valueOf? found = some v) ∧
        m = n := by
  unfold scalarValue
  cases Scalar.classify tag plain text with
  | error refused => exact iff_of_false not_gives_refuse (by simp)
  | ok found =>
      cases found with
      | wideInteger | sequence | map => exact iff_of_false not_gives_refuse (by simp [valueOf?])
      | _ =>
          simp only [Except.ok.injEq, exists_eq_left', valueOf?, Option.some.injEq]
          rw [gives_pure_iff, eq_comm]

/-- A node that is no alias any more is worth a value, as its kind has it. -/
inductive Loaded (d : Document) (depth : Nat) (path : Path) : Node → Nat → Value → Nat → Prop
  | scalar {mark : Mark} {p : Properties} {plain : Bool} {text : List Char} {found : Found}
      {v : Value} {n : Nat} (classified : Scalar.classify p.tag plain text = .ok found)
      (worth : valueOf? found = some v) :
      Loaded d depth path (.scalar mark p plain text) n (withTag p.tag v) n
  | sequence {mark : Mark} {p : Properties} {nodes : List Node} {items : List Value} {n m : Nat}
      (given : Gives (itemsWith (value d depth) path nodes 0) n items m) :
      Loaded d depth path (.sequence mark p nodes) n (withTag p.tag (.sequence items)) m
  | mapping {mark : Mark} {p : Properties} {nodes : List (Node × Node)}
      {entries : List (Value × Value)} {n m : Nat}
      (given : Gives (entriesWith (value d depth) path nodes []) n entries m) :
      Loaded d depth path (.mapping mark p nodes) n (withTag p.tag (.mapping entries)) m
  | lost {mark : Mark} {number n : Nat} : Loaded d depth path (.aliasOf mark number) n .null n

theorem gives_value_iff {d : Document} {depth : Nat} {path : Path} {node : Node} {v : Value} :
    Gives (value d (depth + 1) path node) n v m ↔
      ∃ r k, Gives (follow d path node) n r k ∧ Loaded d depth r.1 r.2 k v m := by
  unfold value
  rw [gives_bind_iff]
  refine exists_congr fun r => exists_congr fun k => and_congr_right fun _ => ?_
  obtain ⟨target, node⟩ := r
  cases node with
  | scalar mark p plain text =>
      simp only [gives_located_iff, gives_bind_iff, gives_scalarValue_iff, gives_pure_iff]
      constructor
      · rintro ⟨v, _, ⟨⟨found, classified, worth⟩, rfl⟩, rfl, rfl⟩
        exact .scalar classified worth
      · intro loaded
        cases loaded with
        | scalar classified worth => exact ⟨_, _, ⟨⟨_, classified, worth⟩, rfl⟩, rfl, rfl⟩
  | sequence mark p nodes =>
      simp only [gives_located_iff, gives_bind_iff, gives_pure_iff]
      constructor
      · rintro ⟨items, _, given, rfl, rfl⟩
        exact .sequence given
      · intro loaded
        cases loaded with
        | sequence given => exact ⟨_, _, given, rfl, rfl⟩
  | mapping mark p entries =>
      simp only [gives_located_iff, gives_bind_iff, gives_pure_iff]
      constructor
      · rintro ⟨items, _, given, rfl, rfl⟩
        exact .mapping given
      · intro loaded
        cases loaded with
        | mapping given => exact ⟨_, _, given, rfl, rfl⟩
  | aliasOf mark number =>
      simp only [gives_pure_iff]
      constructor
      · rintro ⟨rfl, rfl⟩
        exact .lost
      · rintro ⟨⟩
        exact ⟨rfl, rfl⟩

end Load

/-! ## Aliases -/

/-- Whether a node is an alias. -/
def Node.isAlias : Node → Bool
  | .aliasOf _ _ => true
  | _ => false

/-- The node that a node stands for. -/
def Document.resolve (d : Document) : Node → Node
  | .aliasOf mark number => (d.target? number).getD (.missing mark)
  | node => node

theorem Load.resolve_of_follow {d : Document} {path : Path} {node : Node} {r : Path × Node}
    {n m : Nat} (given : Gives (follow d path node) n r m) : r.2 = d.resolve node := by
  cases node with
  | aliasOf mark number =>
      unfold follow at given
      obtain ⟨count, k, -, given⟩ := gives_bind_iff.mp given
      split at given
      · obtain ⟨_, _, thrown, -⟩ := gives_bind_iff.mp given
        exact absurd thrown not_gives_throw
      · obtain ⟨_, _, -, given⟩ := gives_bind_iff.mp given
        obtain ⟨rfl, -⟩ := gives_pure_iff.mp given
        rfl
  | _ =>
      obtain ⟨rfl, -⟩ := gives_pure_iff.mp given
      rfl

theorem Load.gives_follow_iff {d : Document} {path : Path} {node : Node} {r : Path × Node}
    {n m : Nat} (direct : node.isAlias = false) :
    Gives (follow d path node) n r m ↔ r = (path, node) ∧ m = n := by
  cases node with
  | aliasOf mark number => cases direct
  | _ => exact gives_pure_iff

theorem Load.gives_value_iff_loaded {d : Document} {depth : Nat} {path : Path} {node : Node}
    {v : Value} {n m : Nat} (direct : node.isAlias = false) :
    Gives (value d (depth + 1) path node) n v m ↔ Loaded d depth path node n v m := by
  rw [gives_value_iff]
  constructor
  · rintro ⟨r, k, followed, loaded⟩
    obtain ⟨rfl, rfl⟩ := (gives_follow_iff direct).mp followed
    exact loaded
  · intro loaded
    exact ⟨_, n, (gives_follow_iff direct).mpr ⟨rfl, rfl⟩, loaded⟩

mutual

theorem Node.isAlias_of_mem_anchored {entry : Nat × Node} (node : Node)
    (member : entry ∈ node.anchored) : entry.2.isAlias = false := by
  cases node with
  | aliasOf mark number => simp [Node.anchored] at member
  | scalar mark p plain text =>
      unfold Node.anchored at member
      split at member
      · rw [List.mem_singleton.mp member]
        rfl
      · simp at member
  | sequence mark p items =>
      unfold Node.anchored at member
      split at member
      · rcases List.mem_cons.mp member with rfl | inside
        · rfl
        · exact Node.isAlias_of_mem_anchoredItems items inside
      · exact Node.isAlias_of_mem_anchoredItems items member
  | mapping mark p entries =>
      unfold Node.anchored at member
      split at member
      · rcases List.mem_cons.mp member with rfl | inside
        · rfl
        · exact Node.isAlias_of_mem_anchoredEntries entries inside
      · exact Node.isAlias_of_mem_anchoredEntries entries member

theorem Node.isAlias_of_mem_anchoredItems {entry : Nat × Node} (items : List Node)
    (member : entry ∈ Node.anchoredItems items) : entry.2.isAlias = false := by
  cases items with
  | nil => simp [Node.anchoredItems] at member
  | cons item rest =>
      rcases List.mem_append.mp member with first | later
      · exact Node.isAlias_of_mem_anchored item first
      · exact Node.isAlias_of_mem_anchoredItems rest later

theorem Node.isAlias_of_mem_anchoredEntries {entry : Nat × Node} (entries : List (Node × Node))
    (member : entry ∈ Node.anchoredEntries entries) : entry.2.isAlias = false := by
  cases entries with
  | nil => simp [Node.anchoredEntries] at member
  | cons head rest =>
      obtain ⟨key, value⟩ := head
      rcases List.mem_append.mp member with first | later
      · rcases List.mem_append.mp first with inKey | inValue
        · exact Node.isAlias_of_mem_anchored key inKey
        · exact Node.isAlias_of_mem_anchored value inValue
      · exact Node.isAlias_of_mem_anchoredEntries rest later

end

/-- An alias stands for a node that is none. -/
theorem Document.isAlias_resolve_ofRoot (root node : Node) :
    ((Document.ofRoot root).resolve node).isAlias = false := by
  cases node with
  | aliasOf mark number =>
      change (((Document.ofRoot root).target? number).getD (.missing mark)).isAlias = false
      cases target : (Document.ofRoot root).target? number with
      | none => rfl
      | some found =>
          obtain ⟨entry, hit, rfl⟩ := Option.map_eq_some_iff.mp target
          have member := List.mem_reverse.mp (List.mem_of_find?_eq_some hit)
          exact Node.isAlias_of_mem_anchored root member
  | _ => rfl

/-- A node at the front of a document is no alias, for no anchor stands before it. -/
theorem isAlias_of_node? {handles : TagHandles} {fuel : Nat} {block indentless : Bool} {i : Input}
    {r : Node × Input} (fresh : i.anchors = [])
    (parsed : node? handles fuel block indentless i = some r) : r.1.isAlias = false := by
  cases fuel with
  | zero => simp [node?] at parsed
  | succ fuel =>
      unfold node? at parsed
      split at parsed
      next name kind => simp [Input.anchorNumber?, fresh] at parsed
      next notAlias =>
        split at parsed
        · cases parsed
        next p any after props =>
          split at parsed
          next => cases parsed; rfl
          next => obtain ⟨_, -, rfl⟩ := Option.map_eq_some_iff.mp parsed; rfl
          next => obtain ⟨_, -, rfl⟩ := Option.map_eq_some_iff.mp parsed; rfl
          next =>
            split at parsed
            · obtain ⟨_, -, rfl⟩ := Option.map_eq_some_iff.mp parsed; rfl
            split at parsed
            · obtain ⟨_, -, rfl⟩ := Option.map_eq_some_iff.mp parsed; rfl
            split at parsed
            · obtain ⟨_, -, rfl⟩ := Option.map_eq_some_iff.mp parsed; rfl
            split at parsed
            · cases parsed; rfl
            · cases parsed
          next => cases parsed

theorem isAlias_of_document? {tokens : List Token} {root : Node}
    (parsed : document? tokens = some (some root)) : root.isAlias = false := by
  have ended : ∀ {c : Prop} [Decidable c] {front : Node},
      (if c then some (some front) else none) = some (some root) → front = root := by
    intro c _ front same
    obtain ⟨-, same⟩ := Option.ite_none_right_eq_some.mp same
    cases same
    rfl
  unfold document? at parsed
  obtain ⟨⟨handles, rest⟩, -, parsed⟩ := Option.bind_eq_some_iff.mp parsed
  dsimp only at parsed
  split at parsed
  · split at parsed <;> cases parsed
  · split at parsed
    · rw [← ended parsed]
      rfl
    split at parsed
    · rw [← ended parsed]
      rfl
    · rw [← ended parsed]
      rfl
    · obtain ⟨⟨front, i⟩, first, parsed⟩ := Option.bind_eq_some_iff.mp parsed
      rw [← ended parsed]
      exact isAlias_of_node? rfl first
  · split at parsed
    · cases parsed
    · obtain ⟨⟨front, i⟩, first, parsed⟩ := Option.bind_eq_some_iff.mp parsed
      rw [← ended parsed]
      exact isAlias_of_node? rfl first

/-- No alias of the document of a text stands for an alias, and its root is none. -/
theorem Document.isAlias_of_ofText? {text : String} {d : Document}
    (read : Document.ofText? text = some d) :
    d.root.isAlias = false ∧ ∀ node, (d.resolve node).isAlias = false := by
  obtain ⟨front, parsed, rfl⟩ := Option.map_eq_some_iff.mp read
  refine ⟨?_, Document.isAlias_resolve_ofRoot _⟩
  obtain ⟨tokens, -, parsed⟩ := Option.bind_eq_some_iff.mp parsed
  cases front with
  | none => rfl
  | some root => exact isAlias_of_document? parsed

end BoardCompiler.Yaml
