import Naim.Assoc
import Naim.Checked
import Mathlib.Data.Rat.Floor
import Mathlib.Data.String.Basic

/-!
# JSON documents

Values as `nlohmann::json` holds them, an object as the list of its members in
key order. Reading a member with the wrong type throws; the `id` of a json
exception is the one the library documents.
-/

namespace Naim

inductive Json where
  | null
  | bool (b : Bool)
  | int (z : ℤ)
  | float (q : ℚ)
  | str (s : String)
  | arr (items : List Json)
  | obj (fields : List (String × Json))

namespace Json

def isNull : Json → Bool
  | null => true
  | _ => false

def isBoolean : Json → Bool
  | bool _ => true
  | _ => false

def isNumber : Json → Bool
  | int _ => true
  | float _ => true
  | _ => false

def isString : Json → Bool
  | str _ => true
  | _ => false

def isArray : Json → Bool
  | arr _ => true
  | _ => false

def isObject : Json → Bool
  | obj _ => true
  | _ => false

def isEmpty : Json → Bool
  | null => true
  | arr items => items.isEmpty
  | obj fields => fields.isEmpty
  | _ => false

def items : Json → List Json
  | arr items => items
  | _ => []

/-- What a loop `for (const auto& v : j)` runs over. -/
def elements : Json → List Json
  | null => []
  | arr items => items
  | obj fields => fields.map Prod.snd
  | j => [j]

section

variable (j : Json) (key : String)

def get? : Option Json :=
  match j with
  | obj fields => fields.lookup key
  | _ => none

def contains : Bool := (j.get? key).isSome

def member : Checked Json :=
  match j with
  | obj fields => match fields.lookup key with
    | some v => .ok v
    | none => .error (.jsonException 403)
  | _ => .error (.jsonException 304)

@[simp] def wrongType (is : Json → Bool) : Bool := (j.get? key).any fun v => !is v

end

/-- Not an integer, or one that is refused after the conversion to `int`. -/
def badInteger (v : Json) (refused : Int32 → Bool) : Bool :=
  match v with
  | int z => refused (Int32.ofInt z)
  | _ => true

/-- How a type is written to a document and read from it. -/
class Codec (α : Type) where
  toJson : α → Json
  get : Json → Checked α
  get_toJson : ∀ a, get (toJson a) = .ok a

export Codec (toJson)

attribute [simp] Codec.get_toJson

def typeError {α : Type} : Checked α := .error (.jsonException 302)

instance : Codec Json where
  toJson := id
  get := .ok
  get_toJson _ := rfl

instance : Codec String where
  toJson := str
  get
    | str s => .ok s
    | _ => typeError
  get_toJson _ := rfl

instance : Codec Bool where
  toJson := bool
  get
    | bool b => .ok b
    | _ => typeError
  get_toJson _ := rfl

def truncate (q : ℚ) : ℤ := if 0 ≤ q then ⌊q⌋ else ⌈q⌉

/-- A number of any kind is converted to an `int`. -/
instance : Codec Int32 where
  toJson n := int n.toInt
  get
    | int z => .ok (Int32.ofInt z)
    | float q => .ok (Int32.ofInt (truncate q))
    | bool b => .ok (if b then 1 else 0)
    | _ => typeError
  get_toJson n := by simp

instance : Codec ℚ where
  toJson := float
  get
    | float q => .ok q
    | int z => .ok z
    | _ => typeError
  get_toJson _ := rfl

section Containers

variable {α : Type} [Codec α]

lemma mapM_get_toJson (xs : List α) : (xs.map toJson).mapM (Codec.get (α := α)) = .ok xs := by
  induction xs with
  | nil => rfl
  | cons x xs ih => simp [ih]

instance : Codec (List α) where
  toJson xs := arr (xs.map toJson)
  get
    | arr items => items.mapM Codec.get
    | _ => typeError
  get_toJson := mapM_get_toJson

def getEntry (e : String × Json) : Checked (String × α) := (fun v => (e.1,v)) <$> Codec.get e.2

lemma mapM_getEntry (m : List (String × α)) :
    (m.map fun e => (e.1,toJson e.2)).mapM (getEntry (α := α)) = .ok m := by
  induction m with
  | nil => rfl
  | cons e m ih => simp [ih,getEntry]

instance : Codec (List (String × α)) where
  toJson m := obj (m.map fun e => (e.1,toJson e.2))
  get
    | obj fields => fields.mapM getEntry
    | _ => typeError
  get_toJson := mapM_getEntry

end Containers

/-- Values that are never written as null. -/
class Plain (α : Type) [Codec α] : Prop where
  toJson_ne_null : ∀ a : α, toJson a ≠ null

instance : Plain String := ⟨fun _ => by simp [toJson]⟩

instance : Plain Int32 := ⟨fun _ => by simp [toJson]⟩

instance : Plain ℚ := ⟨fun _ => by simp [toJson]⟩

section Reading

variable {α : Type} [Codec α]

variable (j : Json) (key : String)

def readOr (o : Option Json) (default : α) : Checked α :=
  match o with
  | some v => Codec.get v
  | none => .ok default

/-- `j.value(key, default)`. -/
def value (default : α) : Checked α :=
  match j with
  | obj fields => readOr (fields.lookup key) default
  | _ => .error (.jsonException 306)

def atAs : Checked α := j.member key >>= Codec.get

def optionalOf : Option Json → Checked (Option α)
  | none => .ok none
  | some null => .ok none
  | some v => some <$> Codec.get v

def optional : Checked (Option α) := optionalOf (j.get? key)

def presentOf : Option Json → Checked (Option α)
  | none => .ok none
  | some v => some <$> Codec.get v

def present : Checked (Option α) := presentOf (j.get? key)

def arrayOf : Option Json → Checked (List α)
  | some (arr items) => items.mapM Codec.get
  | _ => .ok []

def arrayAs : Checked (List α) := arrayOf (j.get? key)

def mapOf : Option Json → Checked (List (String × α))
  | some (obj fields) => fields.mapM getEntry
  | _ => .ok []

def mapAs : Checked (List (String × α)) := mapOf (j.get? key)

end Reading

variable (j : Json) (key : String)

def object? : Option Json := (j.get? key).filter isObject

def objectAt : Json := (j.object? key).getD (obj [])

def asString? : Json → Option String
  | str s => some s
  | _ => none

def string? : Option String := (j.get? key).bind asString?

def arrayAt : List Json := ((j.get? key).getD null).items

def stringsAt : List String := (j.arrayAt key).filterMap asString?

@[simp] def field {α : Type} [Codec α] (key : String) (o : Option α) : String × Option Json := (key,o.map toJson)

/-- The object of the members that are written. -/
def ofFields (fields : List (String × Option Json)) : Json :=
  obj (fields.foldr (fun f m => match f.2 with
    | some v => Assoc.set m f.1 v
    | none => m) [])

/-- A value that is left out when it is the default. -/
def elide {α : Type} [DecidableEq α] (default a : α) : Option α := if a = default then none else some a

variable {α : Type}

@[simp] lemma getD_elide [DecidableEq α] (default a : α) : (elide default a).getD default = a := by
  unfold elide
  split <;> simp_all

@[simp] lemma isObject_ofFields (fields : List (String × Option Json)) : (ofFields fields).isObject = true := by
  simp [ofFields,isObject]

@[simp] lemma get?_ofFields_nil : (ofFields []).get? key = none := rfl

@[simp] lemma get?_ofFields_cons (f : String × Option Json) (fields : List (String × Option Json))
    (key : String) :
    (ofFields (f::fields)).get? key =
      if key = f.1 then f.2.or ((ofFields fields).get? key) else (ofFields fields).get? key := by
  obtain ⟨k,o⟩ := f
  cases o with
  | none => simp [ofFields,get?]
  | some v => simp [ofFields,get?,Assoc.lookup_set]

@[simp] lemma filter_isObject_some (v : Json) : (some v).filter isObject = if v.isObject then some v else none := by
  simp [Option.filter]

lemma filter_isObject_map {f : α → Json} (h : ∀ a, (f a).isObject = true) (o : Option α) :
    (o.map f).filter isObject = o.map f := by cases o <;> simp [h]

@[simp] lemma get?_obj (fields : List (String × Json)) (key : String) :
    (obj fields).get? key = fields.lookup key := rfl

@[simp] lemma toJson_json : toJson j = j := rfl

@[simp] lemma get_json : (Codec.get j : Checked Json) = .ok j := rfl

@[simp] lemma map_toJson_json (o : Option Json) : o.map toJson = o := by cases o <;> rfl

@[simp] lemma toJson_comp_json (f : α → Json) : toJson ∘ f = f := rfl

@[simp] lemma isString_toJson (s : String) : (toJson s).isString = true := by simp [toJson,isString]

@[simp] lemma asString?_toJson (s : String) : (toJson s).asString? = some s := by simp [toJson,asString?]

@[simp] lemma isBoolean_toJson (b : Bool) : (toJson b).isBoolean = true := by simp [toJson,isBoolean]

@[simp] lemma badInteger_toJson (n : Int32) (refused : Int32 → Bool) :
    (toJson n).badInteger refused = refused n := by simp [toJson,badInteger]

@[simp] lemma isNumber_toJson (q : ℚ) : (toJson q).isNumber = true := by simp [toJson,isNumber]

@[simp] lemma isArray_toJson [Codec α] (xs : List α) : (toJson xs).isArray = true := by simp [toJson,isArray]

@[simp] lemma items_toJson [Codec α] (xs : List α) : (toJson xs).items = xs.map toJson := by simp [toJson,items]

@[simp] lemma items_getD_map [Codec α] (o : Option (List α)) :
    ((o.map toJson).getD null).items = (o.getD []).map toJson := by
  cases o with
  | none => rfl
  | some xs => simp

@[simp] lemma elements_arr (items : List Json) : (arr items).elements = items := by simp [elements]

@[simp] lemma isArray_arr (items : List Json) : (arr items).isArray = true := by simp [isArray]

@[simp] lemma items_arr (items : List Json) : (arr items).items = items := by simp [Json.items]

section Laws

variable {α : Type} [Codec α] {j v : Json} {key : String}

@[simp] lemma member_eq_ok : j.member key = .ok v ↔ j.get? key = some v := by
  cases j with
  | obj fields => cases h : fields.lookup key <;> simp [member,get?,h]
  | _ => simp [member,get?]

@[simp] lemma atAs_eq_ok {a : α} :
    (j.atAs key : Checked α) = .ok a ↔ ∃ v, j.get? key = some v ∧ Codec.get v = .ok a := by
  simp [atAs]

@[simp] lemma readOr_some (v : Json) (default : α) : readOr (some v) default = Codec.get v := by simp [readOr]

@[simp] lemma readOr_none (default : α) : readOr none default = .ok default := by simp [readOr]

@[simp] lemma readOr_map (o : Option α) (default : α) : readOr (o.map toJson) default = .ok (o.getD default) := by
  cases o <;> simp

lemma value_eq (h : j.isObject = true) (default : α) : j.value key default = readOr (j.get? key) default := by
  cases j <;> simp_all [isObject,value,get?]

@[simp] lemma value_ofFields (fields : List (String × Option Json)) (default : α) :
    (ofFields fields).value key default = readOr ((ofFields fields).get? key) default :=
  value_eq (isObject_ofFields fields) default

@[simp] lemma optionalOf_map [Plain α] (o : Option α) : optionalOf (o.map toJson) = .ok o := by
  cases o with
  | none => rfl
  | some a =>
    have hnull := Plain.toJson_ne_null a
    have hget := Codec.get_toJson a
    rw [Option.map_some]
    generalize toJson a = v at hnull hget
    cases v <;> simp_all [optionalOf]

@[simp] lemma presentOf_map (o : Option α) : presentOf (o.map toJson) = .ok o := by cases o <;> simp [presentOf]

@[simp] lemma arrayOf_map (o : Option (List α)) : arrayOf (o.map toJson) = .ok (o.getD []) := by
  cases o with
  | none => rfl
  | some xs => exact mapM_get_toJson xs

@[simp] lemma mapOf_map (o : Option (List (String × α))) : mapOf (o.map toJson) = .ok (o.getD []) := by
  cases o with
  | none => rfl
  | some m => exact mapM_getEntry m

@[simp] lemma bind_asString?_map (o : Option String) : (o.map toJson).bind asString? = o := by cases o <;> simp

lemma isEmpty_of_get? (h : j.get? key = some v) : j.isEmpty = false := by
  cases j with
  | obj fields => cases fields <;> simp_all [isEmpty]
  | _ => simp [get?] at h

lemma isObject_of_value {default a : α} (h : j.value key default = .ok a) : j.isObject = true := by
  cases j <;> simp_all [isObject,value]

end Laws
end Json
end Naim
