import ShaderCost.Text.Character

/-!
The catalogue of GPU models that the offline compiler can compile for, and the loose reading of
the names by which users ask for them.
-/

namespace ShaderCost.Gpu

inductive Architecture where
  | midgard
  | bifrost
  | valhall
  deriving DecidableEq

namespace Architecture

/-- Oldest first. -/
def all : List Architecture := [midgard, bifrost, valhall]

def name : Architecture → Text
  | midgard => "Midgard"
  | bifrost => "Bifrost"
  | valhall => "Valhall"

/-- Reads a name in any case, blanks around it aside. -/
def ofName? (text : Text) : Option Architecture :=
  all.find? fun architecture => Text.equalsIgnoringCase architecture.name (Text.trim text)

end Architecture

structure Model where
  name : Text
  architecture : Architecture
  deriving DecidableEq

namespace Model

def all : List Model := [
  ⟨"Mali-T720", .midgard⟩, ⟨"Mali-T760", .midgard⟩, ⟨"Mali-T820", .midgard⟩,
  ⟨"Mali-T830", .midgard⟩, ⟨"Mali-T860", .midgard⟩, ⟨"Mali-T880", .midgard⟩,
  ⟨"Mali-G31", .bifrost⟩, ⟨"Mali-G51", .bifrost⟩, ⟨"Mali-G52", .bifrost⟩,
  ⟨"Mali-G71", .bifrost⟩, ⟨"Mali-G72", .bifrost⟩, ⟨"Mali-G76", .bifrost⟩,
  ⟨"Mali-G57", .valhall⟩, ⟨"Mali-G68", .valhall⟩, ⟨"Mali-G77", .valhall⟩,
  ⟨"Mali-G78", .valhall⟩, ⟨"Mali-G310", .valhall⟩, ⟨"Mali-G510", .valhall⟩,
  ⟨"Mali-G610", .valhall⟩, ⟨"Mali-G710", .valhall⟩, ⟨"Mali-G615", .valhall⟩,
  ⟨"Mali-G715", .valhall⟩]

def vendor : Text := "mali-"

/-- The name without the vendor in front, if it is there, in any case. -/
def withoutVendor (name : Text) : Text :=
  if Text.equalsIgnoringCase (name.take vendor.length) vendor then name.drop vendor.length
  else name

/-- The model with a name, in any case, with or without the vendor, blanks around it aside. -/
def find? (name : Text) : Option Model :=
  let wanted := withoutVendor (Text.trim name)
  all.find? fun model => Text.equalsIgnoringCase (withoutVendor model.name) wanted

def ofArchitecture (architecture : Architecture) : List Model :=
  all.filter fun model => model.architecture = architecture

/-- The name with its architecture. -/
def title (model : Model) : Text := model.name ++ " (" ++ model.architecture.name ++ ")"

end Model

end ShaderCost.Gpu
