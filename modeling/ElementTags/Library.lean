import ElementTags.Tag
import ElementTags.Template.Host

/-!
# Libraries of tags

The tags that templates can use, by name. A library has at most one tag of each name. Besides them
there are the block tags of the host, which stay as they are.
-/

namespace ElementTags

/-- The tags that templates can use. -/
structure Library where
  tags : List Tag := []
  /-- Block tags that the host has besides statements. -/
  hosts : List HostTag := []

namespace Library

/-- The tag of a name. -/
def find? (library : Library) (name : Text) : Option Tag :=
  library.tags.find? fun t => t.name = name

/-- The block tag of the host that has a name. -/
def host? (library : Library) (name : Text) : Option HostTag :=
  library.hosts.find? fun t => t.name = name

/-- Nothing is found under a name. -/
structure Lacks (library : Library) (name : Text) : Prop where
  tag : library.find? name = none
  host : library.host? name = none

/-- The library without the tag of a name. -/
def unregister (library : Library) (name : Text) : Library :=
  { library with tags := library.tags.filter fun t => t.name ≠ name }

/-- The library with a tag, which takes the place of any other tag of its name. -/
def register (library : Library) (tag : Tag) : Library :=
  { library with tags := tag :: (library.unregister tag.name).tags }

/-- The names of the tags, sorted. -/
def names (library : Library) : List Text :=
  (library.tags.map (·.name)).mergeSort fun a b => !Text.before b a

@[simp] theorem find?_unregister (library : Library) (name other : Text) :
    (library.unregister name).find? other = if name = other then none else library.find? other := by
  simp only [find?, unregister, List.find?_filter]
  split
  · rename_i h
    subst h
    simp
  · rename_i h
    congr 1
    funext t
    by_cases ht : t.name = other
    · have : t.name ≠ name := fun hn => h (hn.symm.trans ht)
      simp [ht, Ne.symm h]
    · simp [ht]

@[simp] theorem find?_register (library : Library) (tag : Tag) (other : Text) :
    (library.register tag).find? other =
      if tag.name = other then some tag else library.find? other := by
  have h := find?_unregister library tag.name other
  simp only [find?] at h ⊢
  simp only [register, List.find?_cons]
  split <;> rename_i hn
  · simp_all
  · have : tag.name ≠ other := by simpa using hn
    rw [h, if_neg this, if_neg this]

end Library
end ElementTags
