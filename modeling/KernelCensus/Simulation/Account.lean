/-
# Accounts

The users that every system has.  They are listed in a file, one to a line.
-/
import KernelCensus.Simulation.Text.Octets

namespace KernelCensus

/-- A user: a name and a number, the number of its group, a comment, a home directory and a shell.
-/
structure Account where
  name : String
  user : Nat
  group : Nat
  comment : String
  home : String
  shell : String := "/usr/sbin/nologin"
  deriving DecidableEq, Repr

namespace Account

/-- The users that every system has. -/
def usual : List Account :=
  [⟨"root", 0, 0, "root", "/root", "/bin/bash"⟩,
    { name := "daemon", user := 1, group := 1, comment := "daemon", home := "/usr/sbin" },
    { name := "bin", user := 2, group := 2, comment := "bin", home := "/bin" },
    { name := "sys", user := 3, group := 3, comment := "sys", home := "/dev" },
    ⟨"sync", 4, 65534, "sync", "/bin", "/bin/sync"⟩,
    { name := "games", user := 5, group := 60, comment := "games", home := "/usr/games" },
    { name := "man", user := 6, group := 12, comment := "man", home := "/var/cache/man" },
    { name := "lp", user := 7, group := 7, comment := "lp", home := "/var/spool/lpd" },
    { name := "mail", user := 8, group := 8, comment := "mail", home := "/var/mail" },
    { name := "news", user := 9, group := 9, comment := "news", home := "/var/spool/news" },
    { name := "uucp", user := 10, group := 10, comment := "uucp", home := "/var/spool/uucp" },
    { name := "proxy", user := 13, group := 13, comment := "proxy", home := "/bin" },
    { name := "www-data", user := 33, group := 33, comment := "www-data", home := "/var/www" },
    { name := "backup", user := 34, group := 34, comment := "backup", home := "/var/backups" },
    { name := "list", user := 38, group := 38, comment := "Mailing List Manager",
      home := "/var/list" },
    { name := "irc", user := 39, group := 39, comment := "ircd", home := "/run/ircd" },
    { name := "_apt", user := 42, group := 65534, comment := "", home := "/nonexistent" },
    { name := "nobody", user := 65534, group := 65534, comment := "nobody",
      home := "/nonexistent" }]

/-- The line of a user; the password is kept elsewhere. -/
def line (account : Account) : String :=
  ":".intercalate
    [account.name, "x", toString account.user, toString account.group, account.comment,
      account.home, account.shell] ++ "\n"

/-- The file in which users are listed. -/
def file (accounts : List Account) : Octets :=
  (accounts.map line).flatMap String.toList

/-- The home directory of a user. -/
def home? (accounts : List Account) (name : Octets) : Option Octets :=
  (accounts.find? (·.name = String.ofList name)).map (·.home.toList)

end Account

end KernelCensus
