import ShaderCost.Dump.Metadata
import ShaderCost.Dump.Region
import ShaderCost.Dump.Version
import ShaderCost.Files.Path
import ShaderCost.Text.Numeral

/-!
Variants of a dump: a vertex and a fragment source compiled for the same pass and keywords. The
dump is scanned once. Each stage section is recorded under the metadata in effect where it
starts, and the sections under one key are paired by position. Lines inside a section are never
read as metadata.
-/

namespace ShaderCost.Dump

/-- What identifies a variant. Keywords are compared as written, so their order matters. -/
structure VariantKey where
  passName : Text
  keywords : Text
  deriving DecidableEq

namespace VariantKey

/-- Joins the two keyword lists with a space where neither is empty. -/
def compose (passName globalKeywords localKeywords : Text) : VariantKey :=
  ⟨passName,
    if globalKeywords.isEmpty then localKeywords
    else if localKeywords.isEmpty then globalKeywords
    else globalKeywords ++ " " ++ localKeywords⟩

/-- `Pass`, or `Pass [KEYWORDS]`. -/
def label (key : VariantKey) : Text :=
  if key.keywords.isEmpty then key.passName
  else key.passName ++ " [" ++ key.keywords ++ "]"

/-- By pass, then by keywords, each in the order of code points. -/
def le (left right : VariantKey) : Bool :=
  if left.passName = right.passName then Text.atMost left.keywords right.keywords
  else Text.atMost left.passName right.passName

end VariantKey

def Context.key (context : Context) : VariantKey :=
  .compose context.passName context.globalKeywords context.localKeywords

structure Variant where
  key : VariantKey
  vertexSource : Text
  fragmentSource : Text
  deriving DecidableEq

namespace Variant

def label (variant : Variant) : Text := variant.key.label

/-- The stem of the files that hold the variant's sources, when it is listed at `index`. -/
def fileStem (variant : Variant) (index : Nat) : Text :=
  safeStem (variant.key.passName ++ "_" ++ Text.ofNat index)

end Variant

/-- A stage section as it was found in a dump. -/
structure StageSection where
  stage : Stage
  key : VariantKey
  source : Text
  balanced : Bool
  deriving DecidableEq

/-- The sections in some lines of a dump, in order, given the metadata in effect before them. -/
def sectionsFrom (context : Context) : List Text → List StageSection
  | [] => []
  | line :: following =>
      match Stage.ofMarker? (Text.trim line) with
      | none => sectionsFrom (context.observe line) following
      | some stage =>
          let captured := Region.takeFrom endMarker (line :: following)
          { stage
            key := context.key
            source := normalizeVersion captured.1.source
            balanced := captured.1.balanced } :: sectionsFrom context captured.2
termination_by lines => lines.length
decreasing_by
  · simp
  · exact Nat.lt_succ_of_le (Region.takeFrom_rest_length endMarker line following)

def sections (text : Text) : List StageSection := sectionsFrom .initial (lines text)

/-- The sources of one stage under one key, in order. -/
def sourcesOf (found : List StageSection) (stage : Stage) (key : VariantKey) : List Text :=
  (found.filter fun part => part.stage = stage && part.key = key).map StageSection.source

/-- The variants under one key: the first vertex source with the first fragment source, and so
on; a source without a partner is left out. -/
def pairUnder (found : List StageSection) (key : VariantKey) : List Variant :=
  List.zipWith (Variant.mk key) (sourcesOf found .vertex key) (sourcesOf found .fragment key)

/-- All variants of a dump, the keys in the order in which they first occur. -/
def variants (text : Text) : List Variant :=
  let found := sections text
  ((found.map StageSection.key).eraseDups).flatMap (pairUnder found)

/-- Variants in the order of their keys, those with equal keys as they came; only the first one
unless all are wanted. -/
def select (candidates : List Variant) (includeAll : Bool) : List Variant :=
  let sorted := candidates.mergeSort fun left right => left.key.le right.key
  if includeAll then sorted else sorted.take 1

end ShaderCost.Dump
