import ShaderCost.Script.Basic
import ShaderCost.Text.Basic
import ShaderCost.Text.Numeral
import Std.Data.HashMap

/-!
Values under texts, in the order in which the texts came: a text that is taken out and comes again
is the last one. Lists of texts as variables hold them: a numbered list may have gaps; a keyed one
is shown in the order of a hash of its keys.
-/

namespace ShaderCost.Script

structure Roster (α : Type) where
  /-- The entries, with gaps where some were taken out. -/
  slots : Array (Option (Text × α))
  places : Std.HashMap String Nat

namespace Roster

variable {α : Type}

def empty : Roster α := ⟨#[], ∅⟩

instance : Inhabited (Roster α) := ⟨empty⟩

def size (roster : Roster α) : Nat := roster.places.size

def get? (roster : Roster α) (key : Text) : Option α :=
  match roster.places[String.ofList key]? with
  | some place => (roster.slots.getD place none).map Prod.snd
  | none => none

def has (roster : Roster α) (key : Text) : Bool := roster.places.contains (String.ofList key)

def insert (roster : Roster α) (key : Text) (value : α) : Roster α :=
  match roster.places[String.ofList key]? with
  | some place => { roster with slots := roster.slots.setIfInBounds place (some (key, value)) }
  | none =>
      let place := roster.slots.size
      ⟨roster.slots.push (some (key, value)), roster.places.insert (String.ofList key) place⟩

/-- The entries in order. -/
def entries (roster : Roster α) : List (Text × α) := roster.slots.toList.filterMap id

def keys (roster : Roster α) : List Text := roster.entries.map Prod.fst

def values (roster : Roster α) : List α := roster.entries.map Prod.snd

def ofEntries (entries : List (Text × α)) : Roster α :=
  entries.foldl (fun roster (key, value) => roster.insert key value) empty

/-- The same entries without gaps. -/
def packed (roster : Roster α) : Roster α :=
  if 2 * roster.size + 8 < roster.slots.size then ofEntries roster.entries else roster

def erase (roster : Roster α) (key : Text) : Roster α :=
  match roster.places[String.ofList key]? with
  | some place =>
      packed ⟨roster.slots.setIfInBounds place none, roster.places.erase (String.ofList key)⟩
  | none => roster

end Roster

end ShaderCost.Script

namespace ShaderCost.Script

inductive Listing where
  /-- Elements by their numbers, which ascend. -/
  | numbered (elements : List (Nat × Text))
  /-- Elements by their keys, the one that was added last in front. -/
  | keyed (elements : List (Text × Text))
  deriving DecidableEq

namespace Listing

def empty : Listing := .numbered []

def ofTexts (texts : List Text) : Listing :=
  .numbered (texts.zipIdx.map fun (text, place) => (place, text))

def isKeyed : Listing → Bool
  | numbered _ => false
  | keyed _ => true

/-- The hash of a key on 32 bits: each octet is mixed into a multiple of what came before. An octet
above 127 counts as negative. -/
def hash (key : Text) : UInt32 :=
  key.foldl (fun hash c =>
    let octet := UInt32.ofNat c.toNat
    (hash * 16777619) ^^^ (if octet < 128 then octet else octet ||| 0xffffff00)) 2166136261

/-- In how many groups the keys fall. -/
def groupCount : Nat := 1024

def groupOf (key : Text) : Nat := (hash key).toNat % groupCount

/-- The elements in the order that they are shown in, with their subscripts. -/
def entries : Listing → List (Text × Text)
  | numbered elements => elements.map fun (place, text) => (Text.ofNat place, text)
  | keyed elements => elements.mergeSort fun left right =>
      groupOf left.1 ≤ groupOf right.1

def texts (listing : Listing) : List Text := listing.entries.map Prod.snd

def keys (listing : Listing) : List Text := listing.entries.map Prod.fst

def size : Listing → Nat
  | numbered elements => elements.length
  | keyed elements => elements.length

/-- The number behind the last one in use. -/
def next : Listing → Nat
  | numbered elements => ((elements.getLast?).map fun entry => entry.1 + 1).getD 0
  | keyed _ => 0

/-- The number that counts from the end where it is negative, unless it is before the front. -/
def place? (listing : Listing) (number : Int) : Option Nat :=
  if 0 ≤ number then some number.toNat
  else
    let place := number + listing.next
    if 0 ≤ place then some place.toNat else none

def numberedAt? : Listing → (place : Nat) → Option Text
  | numbered elements, place => elements.lookup place
  | keyed elements, place => elements.lookup (Text.ofNat place)

def keyedAt? : Listing → (key : Text) → Option Text
  | keyed elements, key => elements.lookup key
  | numbered _, _ => none

/-- Puts an element into its place among those with ascending numbers. -/
def insertNumbered (place : Nat) (text : Text) : List (Nat × Text) → List (Nat × Text)
  | [] => [(place, text)]
  | entry :: rest =>
      if entry.1 < place then entry :: insertNumbered place text rest
      else if entry.1 = place then (place, text) :: rest
      else (place, text) :: entry :: rest

def setNumbered (listing : Listing) (place : Nat) (text : Text) : Listing :=
  match listing with
  | numbered elements => .numbered (insertNumbered place text elements)
  | keyed elements => .keyed elements

/-- An element that is there keeps its position when it changes. -/
def setKeyed (listing : Listing) (key text : Text) : Listing :=
  match listing with
  | keyed elements =>
      if (elements.lookup key).isSome then
        .keyed (elements.map fun entry => if entry.1 = key then (key, text) else entry)
      else .keyed ((key, text) :: elements)
  | numbered elements => .numbered elements

def eraseNumbered (listing : Listing) (place : Nat) : Listing :=
  match listing with
  | numbered elements => .numbered (elements.filter fun entry => entry.1 != place)
  | keyed elements => .keyed elements

def eraseKeyed (listing : Listing) (key : Text) : Listing :=
  match listing with
  | keyed elements => .keyed (elements.filter fun entry => entry.1 != key)
  | numbered elements => .numbered elements

/-- Adds elements behind the last one. -/
def append (listing : Listing) (texts : List Text) : Listing :=
  texts.foldl (fun listing text => listing.setNumbered listing.next text) listing

end Listing

end ShaderCost.Script
