/-!
# Elements and tags

A document as a program writes it is a list of tags and texts (`Markup`); what
it says is a forest of elements (`Forest`). `write` gives the tags of a forest.

A list of tags is properly nested if reading it with a stack of the open
elements ends with none open (`nesting`). What `write` gives is
(`nesting_write`), and only one forest gives it (`write_injective`).

`T` is what texts and attributes hold. No program is mentioned in this file.
-/

namespace ObdGpsLogger.Xml

variable {T : Type}

/-- A piece of a document: the start or the end of an element, or a text. -/
inductive Markup (T : Type) where
  | start (name : String) (attributes : List (String × T))
  | stop (name : String)
  | text (t : T)
  deriving DecidableEq, Repr

/-- Elements and texts, one after the other, with what is inside them. -/
inductive Forest (T : Type) where
  | empty
  | text (t : T) (rest : Forest T)
  | element (name : String) (attributes : List (String × T)) (inside rest : Forest T)
  deriving DecidableEq, Repr

namespace Forest

/-- An element that holds a text only, in front of the elements that follow it. -/
def leaf (name : String) (t : T) (rest : Forest T) : Forest T :=
  .element name [] (.text t .empty) rest

/-- The document that a forest is written as, piece by piece. -/
def write : Forest T → List (Markup T)
  | .empty => []
  | .text t rest => .text t :: rest.write
  | .element name attributes inside rest =>
    .start name attributes :: (inside.write ++ .stop name :: rest.write)

end Forest

/-- The elements that are open behind a list of tags, the innermost first;
`none` when one is closed that is not the innermost. -/
def nesting : List String → List (Markup T) → Option (List String)
  | names, [] => some names
  | names, .start name _ :: tags => nesting (name :: names) tags
  | [], .stop _ :: _ => none
  | top :: names, .stop name :: tags => if top = name then nesting names tags else none
  | names, .text _ :: tags => nesting names tags

/-- A forest leaves the open elements as they are. -/
theorem nesting_write_append (f : Forest T) :
    ∀ (names : List String) (tags : List (Markup T)),
      nesting names (f.write ++ tags) = nesting names tags := by
  induction f with
  | empty => exact fun _ _ => rfl
  | text t rest ih => exact fun names tags => ih names tags
  | element name attributes inside rest ihInside ihRest =>
    intro names tags
    show nesting (name :: names) ((inside.write ++ .stop name :: rest.write) ++ tags) = _
    rw [List.append_assoc, ihInside]
    show (if name = name then nesting names (rest.write ++ tags) else none) = _
    rw [if_pos rfl, ihRest]

/-- **A forest is properly nested** as it is written: each end tag closes the
last tag that is open. -/
theorem nesting_write (f : Forest T) : nesting [] f.write = some [] := by
  have h := nesting_write_append f [] []
  rwa [List.append_nil] at h

/-- The tags of a forest in front of an end tag determine the forest: it ends
where a tag is closed that it has not opened. -/
theorem write_stop_injective {f g : Forest T} {m n : String} {xs ys : List (Markup T)}
    (h : f.write ++ .stop m :: xs = g.write ++ .stop n :: ys) : f = g ∧ xs = ys := by
  -- the first tag tells the form of both, the end tag where the inside is over
  induction f generalizing g m n xs ys with
  | empty =>
    cases g with
    | empty => exact ⟨rfl, (List.cons.inj h).2⟩
    | text t rest => cases h
    | element name attributes inside rest => cases h
  | text t rest ih =>
    cases g with
    | empty => cases h
    | text t' rest' =>
      obtain ⟨ht, hrest⟩ := List.cons.inj h
      obtain ⟨rfl, rfl⟩ := ih hrest
      exact ⟨by rw [Markup.text.inj ht], rfl⟩
    | element name attributes inside rest => cases h
  | element name attributes inside rest ihInside ihRest =>
    cases g with
    | empty => cases h
    | text t rest => cases h
    | element name' attributes' inside' rest' =>
      obtain ⟨hstart, hbehind⟩ := List.cons.inj h
      obtain ⟨rfl, rfl⟩ := Markup.start.inj hstart
      have hinside : inside.write ++ .stop name :: (rest.write ++ .stop m :: xs) =
          inside'.write ++ .stop name :: (rest'.write ++ .stop n :: ys) := by
        simpa using hbehind
      obtain ⟨rfl, hrest⟩ := ihInside hinside
      obtain ⟨rfl, rfl⟩ := ihRest hrest
      exact ⟨rfl, rfl⟩

/-- **One forest for a document**: two forests that are written as the same tags
are the same. -/
theorem write_injective {f g : Forest T} (h : f.write = g.write) : f = g :=
  have hstop : f.write ++ [.stop ""] = g.write ++ [.stop ""] := by rw [h]
  (write_stop_injective hstop).1

end ObdGpsLogger.Xml
