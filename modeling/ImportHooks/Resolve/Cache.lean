import ImportHooks.Url.File

namespace ImportHooks.Resolve

structure Cache where
  entries : List (Url × Url)
  deriving DecidableEq, Repr

namespace Cache

def empty : Cache := ⟨[]⟩

-- Two URLs are one key when their texts are equal, query and fragment included.
def get? (c : Cache) (key : Url) : Option Url := (c.entries.find? (·.1.text = key.text)).map (·.2)

def set (c : Cache) (key value : Url) : Cache := ⟨(key, value) :: c.entries.filter (·.1.text ≠ key.text)⟩

def size (c : Cache) : Nat := c.entries.length

end Cache
end ImportHooks.Resolve
