import SchemeTyping.Hierarchy.Basic

/-! The lattice of encryption schemes that a unit without a hierarchy of its own uses: random,
additively and multiplicatively homomorphic, deterministic and order-preserving encryption above
clear text. -/
namespace SchemeTyping
namespace Hierarchy

private def scheme (name : String) (named : name ≠ "") : Qualifier :=
  ⟨name, "checkers.inference2.jcrypt2.quals." ++ name, named⟩

/-- The schemes from the most to the least preferred. -/
def schemeOrder : List Qualifier := [
  scheme "RND" (by decide), scheme "AH" (by decide), scheme "MH" (by decide),
  scheme "DET" (by decide), scheme "OPE" (by decide), scheme "CLEAR" (by decide)]

/-- Clear text may stand wherever a scheme is asked for, and each weaker scheme below random
encryption. -/
def schemeEdges : List Edge := [
  ⟨"CLEAR", "OPE"⟩, ⟨"OPE", "DET"⟩, ⟨"DET", "RND"⟩, ⟨"CLEAR", "AH"⟩, ⟨"AH", "RND"⟩,
  ⟨"CLEAR", "MH"⟩, ⟨"MH", "RND"⟩]

/-- The default hierarchy. -/
def schemes : Hierarchy where
  order := schemeOrder
  edges := schemeEdges
  baseline := scheme "CLEAR" (by decide)
  distinct := by decide
  ranked := by decide
  based := by decide

end Hierarchy
end SchemeTyping
