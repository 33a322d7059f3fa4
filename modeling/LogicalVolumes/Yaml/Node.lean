import LogicalVolumes.Yaml.Token

/-!
The nodes of a YAML document, each with the place where it starts.
-/

namespace LogicalVolumes.Yaml

/-- What stands before a node's content. Anchors and the aliases that refer to them are of type `ρ`. -/
structure Properties (ρ : Type) where
  mark : Mark
  anchor : Option ρ := none
  /-- The tag with its handle spelled out. -/
  tag : Option TagBytes := none

inductive Node (ρ : Type)
  | alias (mark : Mark) (anchor : ρ)
  | scalar (properties : Properties ρ) (text : List Char) (style : Style)
  | sequence (properties : Properties ρ) (items : List (Node ρ))
  | mapping (properties : Properties ρ) (entries : List (Node ρ × Node ρ))

/-- A node without content. -/
def Node.empty {ρ : Type} (mark : Mark) : Node ρ :=
  .scalar { mark := mark } [] .plain

def Node.mark {ρ : Type} : Node ρ → Mark
  | .alias mark _ => mark
  | .scalar properties _ _ => properties.mark
  | .sequence properties _ => properties.mark
  | .mapping properties _ => properties.mark

end LogicalVolumes.Yaml
