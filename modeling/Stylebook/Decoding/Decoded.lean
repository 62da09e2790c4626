import Stylebook.Decoding.Detail
import Stylebook.Value.Record

/-!
The outcome of reading a record from raw data. Details of all fields are gathered in the order of
the fields; a refusal ends the reading at once and leaves no details.
-/

namespace Stylebook

inductive Decoded (α : Type) where
  | ok (a : α)
  | bad (details : List Detail)
  | refused (why : Refusal)
  deriving DecidableEq, Repr

namespace Decoded

variable {α β : Type}

protected def map (f : α → β) : Decoded α → Decoded β
  | ok a => ok (f a)
  | bad ds => bad ds
  | refused r => refused r

/-- Both outcomes together; the details of the first come first. -/
protected def seq : Decoded (α → β) → Decoded α → Decoded β
  | refused r, _ => refused r
  | _, refused r => refused r
  | ok f, ok a => ok (f a)
  | ok _, bad ds => bad ds
  | bad ds, ok _ => bad ds
  | bad ds, bad es => bad (ds ++ es)

instance : Functor Decoded := ⟨Decoded.map, fun a => Decoded.map fun _ => a⟩

instance : Pure Decoded := ⟨ok⟩

instance : Seq Decoded := ⟨fun f x => f.seq (x ())⟩

def fault (d : Defect) : Decoded α := bad [⟨[], d⟩]

/-- The outcome for what stands one step further down. -/
def under (s : Step) : Decoded α → Decoded α
  | bad ds => bad (ds.map fun d => { d with path := s :: d.path })
  | r => r

def named (s : String) (r : Decoded α) : Decoded α := r.under (.name s)

/-- A further condition on what was read. -/
def andThen (r : Decoded α) (f : α → Decoded β) : Decoded β :=
  match r with
  | ok a => f a
  | bad ds => bad ds
  | refused why => refused why

def toOption : Decoded α → Option α
  | ok a => some a
  | _ => none

def details : Decoded α → List Detail
  | bad ds => ds
  | _ => []

variable {f : Value → Decoded α}

/-- The name of a field, which has to be a text. -/
def fieldName : Key → Decoded String
  | .text s => ok s
  | k => bad [⟨[k.step, .name "[key]"], .notText⟩]

def entries (f : Value → Decoded α) : Fields → Decoded (List (String × α))
  | [] => ok []
  | (k, v) :: rest =>
    (fun name a l => (name, a) :: l) <$> fieldName k <*> (f v).under k.step <*> entries f rest

/-- A map from names. -/
def dict (f : Value → Decoded α) : Value → Decoded (Dict α)
  | .object fields => Dict.ofList <$> entries f fields
  | _ => fault .notObject

def items (f : Value → Decoded α) (i : Int) : List Value → Decoded (List α)
  | [] => ok []
  | v :: rest => List.cons <$> (f v).under (.index i) <*> items f (i + 1) rest

/-- A list, or a set, the members of which count in the order they are given in. -/
def list (f : Value → Decoded α) : Value → Decoded (List α)
  | .list l => items f 0 l
  | .set members => items f 0 (members.map Key.toValue)
  | _ => fault .notList

/-- Null, or what `f` reads. -/
def nullable (f : Value → Decoded α) : Value → Decoded (Option α)
  | .null => ok none
  | v => some <$> f v

/-- A field under the first of its names that is there. -/
def field? (fields : Fields) (names : List String) : Option (String × Value) :=
  names.findSome? fun n => (fields.get? n).map fun v => (n, v)

def required (fields : Fields) (names : List String) (f : Value → Decoded α) : Decoded α :=
  match field? fields names with
  | some (n, v) => (f v).named n
  | none => (fault .missing).named (names.headD "")

/-- A field that may be left out, in favour of `default`. -/
def optional (fields : Fields) (names : List String) (default : α) (f : Value → Decoded α) :
    Decoded α :=
  match field? fields names with
  | some (n, v) => (f v).named n
  | none => ok default

/-- The fields of a record. -/
def record (f : Fields → Decoded α) : Value → Decoded α
  | .object fields => f fields
  | _ => fault .notRecord

/-- The fields of a record that says in the field `tag` which kind it is. -/
def tagged (tag : String) (f : String → Option (Fields → Decoded α)) : Value → Decoded α
  | .object fields =>
    match Fields.get? fields tag with
    | none => fault .tagMissing
    | some (.text kind) => match f kind with
      | some read => (read fields).named kind
      | none => fault .tagUnknown
    | some _ => fault .tagUnknown
  | _ => fault .notTagged

end Decoded

end Stylebook
