import FormatChain.Session.Basic

/-!
# Formatters

A formatter is known by its id and may do anything in a session while it formats.  One that works on
disk takes the text from the file and not from the request.

* `Formatter`, `Registry` : formatters, and those there are.
* `Registry.withoutDisk` : those that do not work on disk, and the ids of the others.
-/

namespace FormatChain

/-- Something that formats texts. -/
structure Formatter where
  /-- Its name. -/
  id : String
  /-- Whether it reads and rewrites the file. -/
  onDisk : Bool
  /-- What it does with a text. -/
  format : FormatRequest → Attempt FormatOutput

/-- The formatters that there are, by their ids. -/
abbrev Registry := OrderedMap Formatter

namespace Registry

/-- Adds a formatter, in the place of one of the same id. -/
def add (r : Registry) (f : Formatter) : Registry := r.set f.id f

/-- The registry of the formatters, added one after the other. -/
def ofFormatters (formatters : List Formatter) : Registry :=
  formatters.foldl add .empty

theorem nodup_filter {entries : List (String × Formatter)} {p : String × Formatter → Bool}
    (h : (Entries.names entries).Nodup) : (Entries.names (entries.filter p)).Nodup :=
  List.Nodup.sublist (List.Sublist.map Prod.fst List.filter_sublist) h

/-- The formatters of which something is true, and the ids of the others. -/
def retain (r : Registry) (keep : Formatter → Bool) : List String × Registry :=
  (Entries.names (r.entries.filter fun entry => !keep entry.2),
    ⟨r.entries.filter fun entry => keep entry.2, nodup_filter r.nodup⟩)

/-- The formatters that do not work on disk, and the ids of the others. -/
def withoutDisk (r : Registry) : List String × Registry :=
  r.retain fun f => !f.onDisk

end Registry

end FormatChain
