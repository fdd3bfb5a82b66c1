/-!
# Accounts

The users whom the system knows, of whom every process runs as the first.
-/

namespace ServiceHarness

/-- A user. -/
structure Account where
  /-- The name. -/
  name : String
  /-- The number. -/
  id : Nat
  /-- The number of the group. -/
  group : Nat
  /-- The home directory. -/
  home : String
  /-- The program that the user begins with. -/
  shell : String := "/usr/sbin/nologin"
  deriving DecidableEq, Repr

namespace Account

/-- The user as whom every process runs. -/
def root : Account where
  name := "root"
  id := 0
  group := 0
  home := "/root"
  shell := "/bin/bash"

/-- The users. -/
def all : List Account :=
  [root, { name := "daemon", id := 1, group := 1, home := "/usr/sbin" },
    { name := "bin", id := 2, group := 2, home := "/bin" },
    { name := "sys", id := 3, group := 3, home := "/dev" },
    { name := "sync", id := 4, group := 65534, home := "/bin", shell := "/bin/sync" },
    { name := "games", id := 5, group := 60, home := "/usr/games" },
    { name := "man", id := 6, group := 12, home := "/var/cache/man" },
    { name := "lp", id := 7, group := 7, home := "/var/spool/lpd" },
    { name := "mail", id := 8, group := 8, home := "/var/mail" },
    { name := "news", id := 9, group := 9, home := "/var/spool/news" },
    { name := "www-data", id := 33, group := 33, home := "/var/www" },
    { name := "backup", id := 34, group := 34, home := "/var/backups" },
    { name := "nobody", id := 65534, group := 65534, home := "/nonexistent" }]

/-- The user of a name. -/
def ofName? (name : String) : Option Account :=
  all.find? (·.name == name)

/-- The line by which a user is listed. -/
def line (a : Account) : String :=
  ":".intercalate [a.name, "x", toString a.id, toString a.group, a.name, a.home, a.shell] ++ "\n"

/-- The line by which the group of a user is listed. -/
def groupLine (a : Account) : String :=
  s!"{a.name}:x:{a.group}:\n"

end Account

end ServiceHarness
