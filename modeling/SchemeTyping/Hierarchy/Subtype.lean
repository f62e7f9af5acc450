import SchemeTyping.Hierarchy.Basic

/-! The subtype relation: the reflexive and transitive closure of the direct edges. -/
namespace SchemeTyping
namespace Hierarchy

/-- A path of zero or more edges from a lower to an upper name. -/
inductive Path (edges : List Edge) : String → String → Prop where
  | here (name : String) : Path edges name name
  | step {lower upper : String} (edge : Edge) (member : edge ∈ edges)
      (path : Path edges lower edge.lower) (arrives : edge.upper = upper) :
      Path edges lower upper

/-- Whether an edge leads on from one of some names. -/
def leadsFrom (names : List String) (edge : Edge) : Bool := names.contains edge.lower

/-- The names at the upper ends of the edges from a frontier that were not reached before. -/
def fresh (reached frontier : List String) (edges : List Edge) : List String :=
  ((edges.filter (leadsFrom frontier)).map Edge.upper).filter fun name => !reached.contains name

/-- The edges that do not lead from a frontier. -/
def beyond (frontier : List String) (edges : List Edge) : List Edge :=
  edges.filter fun edge => !leadsFrom frontier edge

theorem length_beyond_lt {frontier : List String} {edges : List Edge}
    (leads : edges.any (leadsFrom frontier)) : (beyond frontier edges).length < edges.length := by
  obtain ⟨edge, member, follows⟩ := List.any_eq_true.mp leads
  exact List.length_filter_lt_length_iff_exists.mpr ⟨edge, member, by simp [follows]⟩

/-- Grow a set of names along the edges. The edges from the frontier, the names that came in last,
are followed together and dropped, so each edge is followed at most once. -/
def grow (reached frontier : List String) (edges : List Edge) : List String :=
  if _leads : edges.any (leadsFrom frontier) then
    grow (fresh reached frontier edges ++ reached) (fresh reached frontier edges)
      (beyond frontier edges)
  else reached
  termination_by edges.length
  decreasing_by exact length_beyond_lt _leads

/-- The names that a name is a subtype of, itself included. -/
def supertypes (hierarchy : Hierarchy) (name : String) : List String :=
  grow [name] [name] hierarchy.edges

/-- Whether one qualifier is a subtype of another. Both have to be ranked; the upper one is looked
up first. -/
def isSubtype (hierarchy : Hierarchy) (lower upper : String) : Except Fault Bool :=
  match hierarchy.get upper with
  | .error fault => .error fault
  | .ok _ =>
    match hierarchy.get lower with
    | .error fault => .error fault
    | .ok _ => .ok (decide (upper ∈ hierarchy.supertypes lower))

end Hierarchy
end SchemeTyping
