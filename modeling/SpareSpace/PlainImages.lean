import SpareSpace.DateTexts
import SpareSpace.JsonTexts

/-!
# JSON images of class instances

The image of a value in JSON has texts for dates and plain objects for instances of
classes.  It is made a value again by the annotations of the fields: an annotated field is
made a date or an instance, lists are taken item by item, and everything else is copied.
The images of all values of the declared types are made these values again exactly if the
annotations of all fields fit their types.
-/

namespace PlainImages

open DateTexts JsonTexts

variable {C : Type}

/-- A value of a script.  An object is an instance of a class, or plain, and a date that
is not valid has no instant. -/
inductive Value (C : Type)
  | null
  | bool (value : Bool)
  | number (literal : String)
  | string (text : String)
  | date (instant : Option Int)
  | array (items : List (Value C))
  | object (cls : Option C) (fields : List (String × Value C))

/-- What `@Type` names. -/
inductive Target (C : Type)
  | date
  | object
  | cls (cls : C)
  deriving DecidableEq

mutual

/-- `JSON.parse(JSON.stringify(value))`. -/
def toJson : Value C → JsonValue
  | .null => .null
  | .bool value => .bool value
  | .number literal => .number literal
  | .string text => .string text
  | .date none => .null
  | .date (some instant) => .string (toISOString instant)
  | .array items => .array (itemsToJson items)
  | .object _ fields => .object (fieldsToJson fields)

def itemsToJson : List (Value C) → List JsonValue
  | [] => []
  | item :: items => toJson item :: itemsToJson items

def fieldsToJson : List (String × Value C) → List (String × JsonValue)
  | [] => []
  | (name, value) :: fields => (name, toJson value) :: fieldsToJson fields

end

mutual

/-- The value that an image becomes under an annotation.  A date is made of a text or of
a whole number. -/
def transform (targets : C → String → Option (Target C)) :
    Option (Target C) → JsonValue → Value C
  | _, .null => .null
  | some .date, .bool value => .date (some value.toNat)
  | _, .bool value => .bool value
  | some .date, .number literal => .date literal.toInt?
  | _, .number literal => .number literal
  | some .date, .string text => .date (ofISOString text)
  | _, .string text => .string text
  | target, .array items => .array (transformItems targets target items)
  | some .date, .object _ => .date none
  | some (.cls cls), .object entries =>
      .object (some cls) (transformFields targets (targets cls) entries)
  | _, .object entries =>
      .object none (transformFields targets (fun _ => none) entries)

def transformItems (targets : C → String → Option (Target C)) (target : Option (Target C)) :
    List JsonValue → List (Value C)
  | [] => []
  | item :: items =>
      transform targets target item :: transformItems targets target items

def transformFields (targets : C → String → Option (Target C))
    (named : String → Option (Target C)) :
    List (String × JsonValue) → List (String × Value C)
  | [] => []
  | (name, value) :: entries =>
      (name, transform targets (named name) value) ::
        transformFields targets named entries

end

/-- `plainToInstance(cls, image)`. -/
def plainToInstance (targets : C → String → Option (Target C)) (cls : C)
    (image : JsonValue) : Value C :=
  transform targets (some (.cls cls)) image

/-- What a field is declared to hold; `plain` is any value that JSON keeps. -/
inductive FieldType (C : Type)
  | plain
  | date
  | entity (cls : C)
  | list (item : FieldType C)
  | nullable (given : FieldType C)

/-- A value without dates and instances. -/
inductive Plain : Value C → Prop
  | null : Plain .null
  | bool (value : Bool) : Plain (.bool value)
  | number (literal : String) : Plain (.number literal)
  | string (text : String) : Plain (.string text)
  | array {items : List (Value C)} (all : ∀ item ∈ items, Plain item) :
      Plain (.array items)
  | object {fields : List (String × Value C)} (all : ∀ field ∈ fields, Plain field.2) :
      Plain (.object none fields)

/-- A value is of a type, where the fields of instances have declared types.  An instance
may lack fields. -/
inductive HasType (declared : C → String → FieldType C) : FieldType C → Value C → Prop
  | plain {value : Value C} (plain : Plain value) : HasType declared .plain value
  | date (instant : Int) : HasType declared .date (.date (some instant))
  | entity {cls : C} {fields : List (String × Value C)}
      (all : ∀ field ∈ fields, HasType declared (declared cls field.1) field.2) :
      HasType declared (.entity cls) (.object (some cls) fields)
  | list {item : FieldType C} {items : List (Value C)}
      (all : ∀ value ∈ items, HasType declared item value) :
      HasType declared (.list item) (.array items)
  | null {given : FieldType C} : HasType declared (.nullable given) .null
  | given {given : FieldType C} {value : Value C} (typed : HasType declared given value) :
      HasType declared (.nullable given) value

/-- An annotation fits a type if it names what the type holds. -/
def Fits (target : Option (Target C)) : FieldType C → Prop
  | .plain => target = none ∨ target = some .object
  | .date => target = some .date
  | .entity cls => target = some (.cls cls)
  | .list item => Fits target item
  | .nullable given => Fits target given

instance Fits.decidable [DecidableEq C] (target : Option (Target C)) :
    (type : FieldType C) → Decidable (Fits target type)
  | .plain => inferInstanceAs (Decidable (_ ∨ _))
  | .date | .entity _ => inferInstanceAs (Decidable (_ = _))
  | .list item => decidable target item
  | .nullable given => decidable target given

section Maps

variable {targets : C → String → Option (Target C)}

-- the equations of both are made here once, and not by each proof below that waits for them
attribute [local simp] toJson transform

@[simp]
theorem itemsToJson_eq_map (items : List (Value C)) : itemsToJson items = items.map toJson := by
  induction items with
  | nil => rfl
  | cons item items ih => rw [itemsToJson, ih, List.map_cons]

@[simp]
theorem fieldsToJson_eq_map (fields : List (String × Value C)) :
    fieldsToJson fields = fields.map fun field => (field.1, toJson field.2) := by
  induction fields with
  | nil => rfl
  | cons field fields ih => rw [fieldsToJson, ih, List.map_cons]

@[simp]
theorem transformItems_eq_map (target : Option (Target C)) (items : List JsonValue) :
    transformItems targets target items = items.map (transform targets target) := by
  induction items with
  | nil => rfl
  | cons item items ih => rw [transformItems, ih, List.map_cons]

@[simp]
theorem transformFields_eq_map (named : String → Option (Target C))
    (entries : List (String × JsonValue)) :
    transformFields targets named entries =
      entries.map fun entry => (entry.1, transform targets (named entry.1) entry.2) := by
  induction entries with
  | nil => rfl
  | cons entry entries ih => rw [transformFields, ih, List.map_cons]

end Maps

section Restored

variable {targets : C → String → Option (Target C)} {declared : C → String → FieldType C}
  {target : Option (Target C)}

/-- The items of a list are restored one by one. -/
theorem transform_toJson_array {items : List (Value C)}
    (restored : ∀ item ∈ items, transform targets target (toJson item) = item) :
    transform targets target (toJson (.array items)) = .array items := by
  have all : items.map (transform targets target ∘ toJson) = items :=
    (List.map_congr_left restored).trans (List.map_id' items)
  simp [toJson, transform, all]

/-- The fields of an object are restored one by one. -/
theorem map_fields_eq {named : String → Option (Target C)}
    {fields : List (String × Value C)}
    (restored : ∀ field ∈ fields,
      transform targets (named field.1) (toJson field.2) = field.2) :
    transformFields targets named (fieldsToJson fields) = fields := by
  rw [fieldsToJson_eq_map, transformFields_eq_map, List.map_map]
  refine (List.map_congr_left fun field present => ?_).trans (List.map_id fields)
  exact Prod.ext rfl (restored field present)

theorem transform_toJson_of_plain {value : Value C} (plain : Plain value)
    (fits : target = none ∨ target = some .object) :
    transform targets target (toJson value) = value := by
  induction plain generalizing target with
  | null | bool | number | string => rcases fits with rfl | rfl <;> rfl
  | array _ ih => exact transform_toJson_array fun item present => ih item present fits
  | @object fields _ ih =>
      have all := @map_fields_eq C targets (fun _ => none) fields
        fun field present => ih field present (Or.inl rfl)
      rcases fits with rfl | rfl <;> simp only [toJson, transform, all]

/-- The fields of an instance are restored under the annotations of its class, whatever
the object was an instance of. -/
theorem plainToInstance_toJson {cls : C} {fields : List (String × Value C)}
    (own : Option C) (restored : ∀ field ∈ fields,
      transform targets (targets cls field.1) (toJson field.2) = field.2) :
    plainToInstance targets cls (toJson (.object own fields)) =
      .object (some cls) fields := by
  rw [plainToInstance, toJson, transform, map_fields_eq restored]

/-- A value of a type is restored under an annotation that fits. -/
theorem transform_toJson (agrees : ∀ cls name, Fits (targets cls name) (declared cls name))
    {type : FieldType C} {value : Value C} (typed : HasType declared type value)
    (fits : Fits target type) : transform targets target (toJson value) = value := by
  induction typed generalizing target with
  | plain plain => exact transform_toJson_of_plain plain fits
  | date instant =>
      obtain rfl : target = some .date := fits
      rw [toJson, transform, ofISOString_toISOString]
  | @entity cls fields _ ih =>
      obtain rfl : target = some (.cls cls) := fits
      exact plainToInstance_toJson (some cls)
        fun field present => ih field present (agrees cls field.1)
  | list _ ih => exact transform_toJson_array fun value present => ih value present fits
  | null => cases target <;> rfl
  | given _ ih => exact ih fits

/-- An annotation under which all values of a type are restored fits it. -/
theorem fits_of_restored {type : FieldType C}
    (restored : ∀ value, HasType declared type value →
      transform targets target (toJson value) = value) : Fits target type := by
  induction type with
  | plain =>
      have text := restored (.string "") (.plain (.string ""))
      have object := restored (.object none []) (.plain (.object fun _ present => by cases present))
      rcases target with _ | _ | _ | cls
      · exact Or.inl rfl
      · cases text
      · exact Or.inr rfl
      · cases object
  | date =>
      have instant := restored (.date (some 0)) (.date 0)
      rcases target with _ | _ | _ | cls
      · cases instant
      · rfl
      · cases instant
      · cases instant
  | entity cls =>
      have empty := restored (.object (some cls) []) (.entity fun _ present => by cases present)
      rcases target with _ | _ | _ | other
      · cases empty
      · cases empty
      · cases empty
      · cases empty
        rfl
  | list item ih =>
      refine ih fun value typed => ?_
      have single := restored (.array [value]) (.list (by simpa using typed))
      simpa [toJson, transform] using single
  | nullable given ih => exact ih fun value typed => restored value (.given typed)

/-- **Images are restored exactly if all annotations fit.** -/
theorem plainToInstance_toJson_iff :
    (∀ (cls : C) (own : Option C) (fields : List (String × Value C)),
      (∀ field ∈ fields, HasType declared (declared cls field.1) field.2) →
        plainToInstance targets cls (toJson (.object own fields)) =
          .object (some cls) fields) ↔
      ∀ cls name, Fits (targets cls name) (declared cls name) := by
  constructor
  · intro restored cls name
    refine @fits_of_restored C targets declared _ _ fun value typed => ?_
    have single := restored cls (some cls) [(name, value)] (by simpa using typed)
    simpa [plainToInstance, toJson, transform] using single
  · intro agrees cls own fields typed
    exact plainToInstance_toJson own fun field present =>
      transform_toJson agrees (typed field present) (agrees cls field.1)

end Restored

/-- A field of a class: its declared type, and what `@Type` names there. -/
structure ClassField (C : Type) where
  name : String
  type : FieldType C
  target : Option (Target C)

section Classes

variable {classes : C → List (ClassField C)}

/-- The declared field of a name, if there is one. -/
def fieldOf (classes : C → List (ClassField C)) (cls : C) (name : String) : Option (ClassField C) :=
  (classes cls).find? (·.name == name)

/-- A field that is not declared is plain. -/
def typeOf (classes : C → List (ClassField C)) (cls : C) (name : String) : FieldType C :=
  (fieldOf classes cls name).elim .plain ClassField.type

def targetOf (classes : C → List (ClassField C)) (cls : C) (name : String) :
    Option (Target C) :=
  (fieldOf classes cls name).bind ClassField.target

/-- All annotations of a class fit the types of their fields. -/
def Annotated (fields : List (ClassField C)) : Prop :=
  ∀ field ∈ fields, Fits field.target field.type

instance [DecidableEq C] (fields : List (ClassField C)) : Decidable (Annotated fields) :=
  inferInstanceAs (Decidable (∀ _ ∈ _, _))

theorem fits_of_annotated (annotated : ∀ cls, Annotated (classes cls)) (cls : C)
    (name : String) : Fits (targetOf classes cls name) (typeOf classes cls name) := by
  unfold targetOf typeOf
  cases found : fieldOf classes cls name with
  | none => exact Or.inl rfl
  | some field => exact annotated cls field (List.mem_of_find?_eq_some found)

end Classes

end PlainImages
