import FormatChain.Disk.Machine

/-!
# The disk of a bare system

* `Disk.bare` : what is on the disk of a system on which nothing was done yet.
* `Disk.bareVariables` : the variables of such a system.
-/

namespace FormatChain

namespace Disk

/-- The directories of a bare system. -/
def standardDirectories : List Path :=
  ["/", "/boot", "/dev", "/dev/shm", "/etc", "/home", "/media", "/mnt", "/opt", "/proc", "/root", "/run",
    "/srv", "/sys", "/tmp", "/usr", "/usr/bin", "/usr/games", "/usr/include", "/usr/lib",
    "/usr/lib64", "/usr/libexec", "/usr/local", "/usr/local/bin", "/usr/local/lib",
    "/usr/local/sbin", "/usr/local/share", "/usr/sbin", "/usr/share", "/usr/src", "/var",
    "/var/cache", "/var/lib", "/var/log", "/var/mail", "/var/spool", "/var/tmp"].map Path.mk

/-- The directories of commands and libraries that are links. -/
def standardLinks : List (Path × Path) :=
  ["bin", "lib", "lib64", "sbin"].map fun name => (⟨"/" ++ name⟩, ⟨"usr/" ++ name⟩)

/-- The commands of a bare system. -/
def standardCommands : List String :=
  ["[", "arch", "awk", "b2sum", "base32", "base64", "basename", "bash", "cat", "chmod", "chown", "cksum", "cmp",
    "comm", "cp", "cut", "dash", "date", "dd", "df", "diff", "dir", "dirname", "du", "echo",
    "egrep", "env", "expand", "expr", "factor", "false", "fgrep", "find", "fmt", "fold", "grep", "groups",
    "head", "hostname", "id", "install", "join", "kill", "link", "ln", "ls", "mawk", "md5sum",
    "mkdir", "mktemp", "mv", "nice", "nl", "nohup", "nproc", "numfmt", "od", "paste", "printenv",
    "printf", "pwd", "readlink", "realpath", "rev", "rm", "rmdir", "sed", "seq", "setsid", "sh",
    "sha1sum", "sha224sum", "sha256sum", "sha384sum", "sha512sum", "shuf", "sleep", "sort", "split",
    "stat", "stdbuf", "sum", "sync", "tac", "tail", "tee", "test", "timeout", "touch", "tr", "true",
    "truncate", "tsort", "tty", "uname", "unexpand", "uniq", "unlink", "wc", "which", "whoami",
    "xargs", "yes"]

/-- The path of a command of the system. -/
def commandPath (name : String) : Path := ⟨"/usr/bin/" ++ name⟩

/-- The people that a bare system knows. -/
def standardPeople : String :=
  String.join (["root:x:0:0:root:/root:/bin/bash", "daemon:x:1:1:daemon:/usr/sbin:/usr/sbin/nologin",
    "bin:x:2:2:bin:/bin:/usr/sbin/nologin", "sys:x:3:3:sys:/dev:/usr/sbin/nologin",
    "sync:x:4:65534:sync:/bin:/bin/sync", "games:x:5:60:games:/usr/games:/usr/sbin/nologin",
    "man:x:6:12:man:/var/cache/man:/usr/sbin/nologin",
    "lp:x:7:7:lp:/var/spool/lpd:/usr/sbin/nologin",
    "mail:x:8:8:mail:/var/mail:/usr/sbin/nologin",
    "news:x:9:9:news:/var/spool/news:/usr/sbin/nologin",
    "uucp:x:10:10:uucp:/var/spool/uucp:/usr/sbin/nologin",
    "proxy:x:13:13:proxy:/bin:/usr/sbin/nologin",
    "www-data:x:33:33:www-data:/var/www:/usr/sbin/nologin",
    "backup:x:34:34:backup:/var/backups:/usr/sbin/nologin",
    "list:x:38:38:Mailing List Manager:/var/list:/usr/sbin/nologin",
    "irc:x:39:39:ircd:/run/ircd:/usr/sbin/nologin", "_apt:x:42:65534::/nonexistent:/usr/sbin/nologin",
    "nobody:x:65534:65534:nobody:/nonexistent:/usr/sbin/nologin"].map (· ++ "\n"))

/-- What is on the disk of a bare system. -/
def bare : Disk :=
  { files :=
      (["/dev/null", "/dev/zero", "/dev/full", "/dev/tty", "/dev/random", "/dev/urandom"].map fun p =>
        (⟨p⟩, ""))
      ++ [(⟨"/etc/passwd"⟩, standardPeople), (⟨"/etc/group"⟩, "root:x:0:\n"), (⟨"/etc/hostname"⟩, "localhost\n"),
        (⟨"/etc/hosts"⟩, "127.0.0.1\tlocalhost\n"), (⟨"/etc/shadow"⟩, "root:*:19000:0:99999:7:::\n")]
      ++ standardCommands.map fun name => (commandPath name, "\x7fELF")
    directories := standardDirectories
    links := standardLinks
    readOnly := ["/proc", "/sys"].map Path.mk
    executable := standardCommands.map commandPath }

/-- The variables of a bare system. -/
def bareVariables : List (String × String) :=
  [("PATH", "/usr/local/sbin:/usr/local/bin:/usr/sbin:/usr/bin:/sbin:/bin"), ("HOME", "/root")]

end Disk

end FormatChain
