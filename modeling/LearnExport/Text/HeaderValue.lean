/-!
# Characters of header values

A header may hold any characters but control characters; the tab is no control
character here. Only a header whose value is printable ASCII is read as text by
those parts of a request that depend on it.
-/

namespace LearnExport.Text

def isHeaderValue (value : String) : Bool :=
  value.toList.all fun character =>
    character == '\t' || (' ' ≤ character && character != '\x7f')

/-- Whether a header value is text: printable ASCII, spaces and tabs. -/
def isHeaderText (value : String) : Bool :=
  value.toList.all fun character =>
    character == '\t' || (' ' ≤ character && character ≤ '~')

end LearnExport.Text
